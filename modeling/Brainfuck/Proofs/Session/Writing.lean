import Brainfuck.Proofs.CSource.Text
import Brainfuck.Proofs.File.Writing
import Brainfuck.Proofs.Loop.Segment
import Brainfuck.Proofs.Options
import Brainfuck.Proofs.Program.Loaded
import Brainfuck.Proofs.Session.Reading

namespace Brainfuck

/-!
# Writing C source

A loaded program whose brackets are balanced has C source for every tape size that
can be written, and turning the program into C writes that source where it is asked
for, or reports the file that cannot be written.
-/

/-- Whether a text is the C source of a program for a tape of a number of cells. -/
def Program.HasSource
    (program : Program)
    (cells : Nat)
    (text : String) :
    Prop :=
  ∃ generator left,
    Generator.create cells = .ok generator ∧
      Generator.generate program generator = .ok text left

theorem Program.exists_hasSource
    {program : Program}
    {cells : Nat}
    (loaded : program.IsLoaded)
    (balanced : program.IsBalanced)
    (positive : 0 < cells)
    (numeral : Text.hasNumeral cells = true) :
    ∃ text, program.HasSource cells text := by
  obtain ⟨opcodes, rfl⟩ := loaded.exists_opcodes
  obtain ⟨table, resolved⟩ := balanced.exists_resolveLoops
  exact ⟨_, _, _, Generator.create_of_cells (Int.ofNat_le.mpr positive),
    Generator.generate_ofOpcodes resolved numeral⟩

/-- A program has one C source at most. -/
theorem Program.HasSource.eq
    {program : Program}
    {cells : Nat}
    {text other : String}
    (generates : program.HasSource cells text)
    (alike : program.HasSource cells other) :
    text = other := by
  obtain ⟨generator, left, created, generated⟩ := generates
  obtain ⟨_, _, sameCreated, sameGenerated⟩ := alike
  rw [created, Except.ok.injEq] at sameCreated
  rw [← sameCreated, generated] at sameGenerated
  cases sameGenerated
  rfl

namespace Session

variable
  {path : File.Path}
  {session : Session}

theorem writeFile_eq_write
    (plain : path.IsPlain)
    (text : String)
    (session : Session) :
    ∃ journal,
      writeFile path text session =
        match session.files.write path (utf8Bytes text.toList) with
        | .error problem => .error (.unwritableFile path.toText problem) session
        | .ok files => .ok () { session with files, journal } := by
  unfold writeFile
  rw [bind_of_ok (checkPath_of_isPlain plain session), get_bind]
  cases session.files.write path (utf8Bytes text.toList) with
  | error problem =>
      exact ⟨#[], rfl⟩
  | ok files =>
      exact ⟨_, rfl⟩

theorem generate_of_ok
    {program : Program}
    {generator left : Generator}
    {text : String}
    (generated : Generator.generate program generator = .ok text left)
    (session : Session) :
    ∃ journal,
      generate generator program session = .ok (.ok text, left) { session with journal } := by
  unfold generate
  rw [generated]
  cases program.resolveLoops.isOk <;> exact ⟨_, rfl⟩

theorem generate_of_error
    {program : Program}
    {generator left : Generator}
    {failure : Failure}
    (stopped : Generator.generate program generator = .error failure left)
    (session : Session) :
    ∃ journal,
      generate generator program session = .ok (.error failure, left) { session with journal } := by
  unfold generate
  rw [stopped]
  cases program.resolveLoops.isOk <;> exact ⟨_, rfl⟩

/-- A program is turned into its C source, which is written to the path. -/
theorem transpile_eq_write
    {program : Program}
    {options : TranspileOptions}
    {text : String}
    (generates : program.HasSource options.tapeSize text)
    (plain : path.IsPlain)
    (session : Session) :
    ∃ journal,
      transpile program options (some path) session =
        match session.files.write path (utf8Bytes text.toList) with
        | .error problem => .error (.unwritableFile path.toText problem) { session with journal }
        | .ok files => .ok text { session with files, journal } := by
  obtain ⟨generator, left, created, generated⟩ := generates
  obtain ⟨journal, generates⟩ := generate_of_ok generated session
  obtain ⟨longer, writes⟩ := writeFile_eq_write plain text { session with journal }
  unfold transpile
  rw [bind_of_ok (lift_of_ok created session), bind_of_ok generates]
  dsimp only
  rw [bind_of_ok (lift_of_ok rfl { session with journal })]
  cases written : session.files.write path (utf8Bytes text.toList) with
  | error problem =>
      simp only [written] at writes
      exact ⟨journal, bind_of_error writes⟩
  | ok files =>
      simp only [written] at writes
      exact ⟨longer, bind_of_ok writes⟩

/-- A program is not turned into C for a tape size that cannot be written. -/
theorem transpile_of_not_hasNumeral
    {program : Program}
    {options : TranspileOptions}
    (balanced : program.IsBalanced)
    (cells : 0 < options.tapeSize)
    (huge : Text.hasNumeral options.tapeSize = false)
    (path : Option File.Path)
    (session : Session) :
    ∃ journal,
      transpile program options path session =
        .error .numeralTooLong { session with journal } := by
  obtain ⟨table, resolved⟩ := balanced.exists_resolveLoops
  let generator : Generator := ⟨options.tapeSize, #[], 0⟩
  have created : Generator.create options.tapeSize = .ok generator :=
    Generator.create_of_cells (Int.ofNat_le.mpr cells)
  have stopped : Generator.generate program generator =
      .error .numeralTooLong (Generator.opened generator.tapeSize) :=
    Generator.generate_of_not_hasNumeral resolved huge
  obtain ⟨journal, generates⟩ := generate_of_error stopped session
  unfold transpile
  rw [bind_of_ok (lift_of_ok created session), bind_of_ok generates]
  dsimp only
  rw [bind_of_error (lift_of_error rfl { session with journal })]
  exact ⟨journal, rfl⟩

end Session

end Brainfuck
