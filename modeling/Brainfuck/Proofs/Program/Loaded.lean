import Brainfuck.Program.Loader
import Brainfuck.Proofs.Outcome

namespace Brainfuck

/-!
# Loaded programs

Whatever a program is loaded from, it consists of commands only.  Its source
text is therefore plain ASCII, with one character for each command.
-/

namespace Program

/-- Whether a program is one that the loader makes, of a whole source or of a stream. -/
inductive IsLoaded (program : Program) : Prop where
  | ofSource
      (source : Source)
      (loads : load source = .ok program) :
      program.IsLoaded
  | ofStream
      (stream : Stream)
      (chunkSize : Int)
      (total : Nat)
      (loads : loadStream stream chunkSize = .ok (program, total)) :
      program.IsLoaded

/-- A loaded program consists of commands. -/
theorem IsLoaded.exists_opcodes
    {program : Program}
    (loaded : program.IsLoaded) :
    ∃ opcodes, program = ofOpcodes opcodes := by
  cases loaded with
  | ofSource source loads =>
      obtain ⟨empty, _, filled⟩ := Outcome.bind_eq_ok loads
      obtain ⟨⟨buffer, _⟩, _, frozen⟩ := Outcome.bind_eq_ok filled
      cases frozen
      exact ⟨buffer.contents.toList, rfl⟩
  | ofStream stream chunkSize total loads =>
      obtain ⟨empty, _, checked⟩ := Outcome.bind_eq_ok loads
      obtain ⟨_, _, filled⟩ := Outcome.bind_eq_ok checked
      obtain ⟨⟨buffer, _⟩, _, frozen⟩ := Outcome.bind_eq_ok filled
      cases frozen
      exact ⟨buffer.contents.toList, rfl⟩

theorem ofUInt8_lowByte_word (opcode : Opcode) :
    Char.ofUInt8 (lowByte opcode.word) = opcode.symbol := by
  cases opcode <;> decide

theorem toSource_ofOpcodes (opcodes : List Opcode) :
    (ofOpcodes opcodes).toSource = .ok (String.ofList (opcodes.map Opcode.symbol)) := by
  have noneBeyondAscii :
      (opcodes.map fun opcode => lowByte opcode.word).findIdx? (fun byte => 128 ≤ byte) =
        none := by
    rw [List.findIdx?_eq_none_iff]
    intro byte member
    obtain ⟨opcode, _, rfl⟩ := List.mem_map.mp member
    cases opcode <;> decide
  have bytes :
      (ofOpcodes opcodes).words.toList.map lowByte =
        opcodes.map fun opcode => lowByte opcode.word := by
    simp [ofOpcodes]
  unfold toSource asciiText
  rw [bytes, noneBeyondAscii]
  simp [Function.comp_def, ofUInt8_lowByte_word]

theorem IsLoaded.exists_toSource
    {program : Program}
    (loaded : program.IsLoaded) :
    ∃ source, program.toSource = .ok source := by
  obtain ⟨opcodes, rfl⟩ := loaded.exists_opcodes
  exact ⟨_, toSource_ofOpcodes opcodes⟩

end Program

end Brainfuck
