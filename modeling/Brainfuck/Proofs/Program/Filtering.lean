import Brainfuck.Proofs.Program.Loaded
import Mathlib.Tactic.SplitIfs

namespace Brainfuck

/-!
# Filtering source text

Loading keeps the commands of its source and nothing else.  It may work on bytes
because the bytes of a character beyond ASCII are all beyond ASCII themselves, so
that none of them is taken for a command.  A whole source never has more commands
than its length, and its buffer never grows.
-/

namespace Opcode

/-- The bytes that spell commands. -/
def bytes : List UInt8 :=
  all.map byte

/-- The characters that spell commands. -/
def symbols : List Char :=
  all.map symbol

theorem mem_all (opcode : Opcode) : opcode ∈ all := by
  cases opcode <;> decide

theorem ofByte?_eq_some_iff
    {byte : UInt8}
    {opcode : Opcode} :
    ofByte? byte = some opcode ↔ opcode.byte = byte := by
  constructor
  · intro found
    unfold ofByte? at found
    split_ifs at found <;> cases found <;> symm <;> assumption
  · rintro rfl
    exact ofByte?_byte opcode

theorem ofSymbol?_eq_some_iff
    {character : Char}
    {opcode : Opcode} :
    ofSymbol? character = some opcode ↔ opcode.symbol = character := by
  constructor
  · intro found
    unfold ofSymbol? at found
    have spelled := List.find?_some found
    exact of_decide_eq_true spelled
  · rintro rfl
    exact ofSymbol?_symbol opcode

/-- Decoding what spells commands and spelling it again is keeping what spells commands. -/
theorem map_filterMap_eq_filter
    {α : Type}
    [BEq α]
    [LawfulBEq α]
    {decode : α → Option Opcode}
    {spell : Opcode → α}
    (decode_eq : ∀ item opcode, decode item = some opcode ↔ spell opcode = item)
    (items : List α) :
    (items.filterMap decode).map spell =
      items.filter fun item => (all.map spell).contains item := by
  induction items with
  | nil =>
      rfl
  | cons item rest inductionHypothesis =>
      cases decoded : decode item with
      | none =>
          have comment : item ∉ all.map spell := by
            intro member
            obtain ⟨opcode, _, spelled⟩ := List.mem_map.mp member
            rw [(decode_eq item opcode).mpr spelled] at decoded
            cases decoded
          rw [List.filterMap_cons_none decoded, inductionHypothesis, List.filter_cons_of_neg]
          rwa [List.contains_iff_mem]
      | some opcode =>
          have spelled := (decode_eq item opcode).mp decoded
          have member : item ∈ all.map spell := by
            rw [← spelled]
            exact List.mem_map_of_mem opcode.mem_all
          rw [List.filterMap_cons_some decoded, List.map_cons, spelled, inductionHypothesis,
            List.filter_cons_of_pos]
          rwa [List.contains_iff_mem]

theorem toNat_byte (opcode : Opcode) : opcode.byte.toNat = opcode.symbol.toNat := by
  cases opcode <;> rfl

theorem toInt_word (opcode : Opcode) : opcode.word.toInt = opcode.byte.toNat := by
  cases opcode <;> rfl

theorem toNat_byte_lt (opcode : Opcode) : opcode.byte.toNat < 128 := by
  cases opcode <;> decide

/-- A byte beyond ASCII spells no command. -/
theorem not_mem_bytes_of_le
    {byte : UInt8}
    (beyond : 128 ≤ byte.toNat) :
    byte ∉ bytes := by
  intro member
  obtain ⟨opcode, _, rfl⟩ := List.mem_map.mp member
  exact absurd opcode.toNat_byte_lt (Nat.not_lt_of_le beyond)

theorem ofByte?_eq_none_of_le
    {byte : UInt8}
    (beyond : 128 ≤ byte.toNat) :
    ofByte? byte = none := by
  rw [Option.eq_none_iff_forall_ne_some]
  intro opcode found
  have spelled := ofByte?_eq_some_iff.mp found
  have small := opcode.toNat_byte_lt
  rw [spelled] at small
  exact absurd small (Nat.not_lt_of_le beyond)

theorem ofSymbol?_eq_none_of_le
    {character : Char}
    (beyond : 128 ≤ character.toNat) :
    ofSymbol? character = none := by
  rw [Option.eq_none_iff_forall_ne_some]
  intro opcode found
  have spelled := ofSymbol?_eq_some_iff.mp found
  have small := opcode.toNat_byte_lt
  rw [opcode.toNat_byte, spelled] at small
  exact absurd small (Nat.not_lt_of_le beyond)

end Opcode

/-- A character of ASCII is encoded by its own number. -/
theorem utf8EncodeChar_of_lt
    {character : Char}
    (ascii : character.toNat < 128) :
    String.utf8EncodeChar character = [UInt8.ofNat character.toNat] := by
  have within : character.val.toNat ≤ 127 := Nat.le_of_lt_succ ascii
  unfold String.utf8EncodeChar
  simp only [within, ↓reduceIte]
  rfl

/-- Every byte of a character beyond ASCII is beyond ASCII: leading and continuation bytes alike. -/
theorem le_toNat_of_mem_utf8EncodeChar
    {character : Char}
    (beyond : 128 ≤ character.toNat)
    {byte : UInt8}
    (member : byte ∈ String.utf8EncodeChar character) :
    128 ≤ byte.toNat := by
  have outside : ¬ character.val.toNat ≤ 127 := Nat.not_le_of_lt beyond
  unfold String.utf8EncodeChar at member
  simp only [outside, ↓reduceIte] at member
  -- A leading byte is at least 192 whatever the length, and the others are at least 128.
  split_ifs at member with two three <;>
    simp only [List.mem_cons, List.not_mem_nil, or_false] at member
  · rcases member with rfl | rfl <;> simp only [UInt8.toNat_ofNat'] <;> omega
  · rcases member with rfl | rfl | rfl <;> simp only [UInt8.toNat_ofNat'] <;> omega
  · rcases member with rfl | rfl | rfl | rfl <;> simp only [UInt8.toNat_ofNat'] <;> omega

theorem exists_utf8EncodeChar_eq_cons (character : Char) :
    ∃ first more, String.utf8EncodeChar character = first :: more := by
  have several := character.utf8Size_pos
  rw [← String.length_utf8EncodeChar] at several
  exact List.exists_cons_of_length_pos several

theorem utf8Bytes_cons
    (character : Char)
    (rest : List Char) :
    utf8Bytes (character :: rest) = String.utf8EncodeChar character ++ utf8Bytes rest := by
  simp only [utf8Bytes, List.flatMap_cons]

/-- The bytes of a text are those of its characters. -/
theorem utf8Bytes_toList (content : String) :
    utf8Bytes content.toList = content.toUTF8.data.toList := by
  have encoded := String.utf8Encode_toList (b := content)
  rw [String.toUTF8, ← encoded, List.utf8Encode, utf8Bytes, List.data_toByteArray]

namespace Buffer

theorem commands_append (first second : List UInt8) :
    commands (first ++ second) = commands first ++ commands second :=
  List.filterMap_append

/-- The bytes of a character hold the command that it spells, and no other. -/
theorem commands_utf8EncodeChar (character : Char) :
    commands (String.utf8EncodeChar character) = (Opcode.ofSymbol? character).toList := by
  by_cases ascii : character.toNat < 128
  · have single : Opcode.ofByte? (UInt8.ofNat character.toNat) = Opcode.ofSymbol? character := by
      apply Option.ext
      intro opcode
      rw [Opcode.ofByte?_eq_some_iff, Opcode.ofSymbol?_eq_some_iff, ← UInt8.toNat_inj,
        UInt8.toNat_ofNat', Opcode.toNat_byte, Nat.mod_eq_of_lt (by omega), ← Char.toNat_inj]
    rw [utf8EncodeChar_of_lt ascii]
    simp only [commands, List.filterMap_cons, List.filterMap_nil, single]
    cases Opcode.ofSymbol? character <;> rfl
  · have beyond : 128 ≤ character.toNat := Nat.le_of_not_lt ascii
    have comments : commands (String.utf8EncodeChar character) = [] := by
      apply List.filterMap_eq_nil_iff.mpr
      intro byte member
      exact Opcode.ofByte?_eq_none_of_le (le_toNat_of_mem_utf8EncodeChar beyond member)
    rw [comments, Opcode.ofSymbol?_eq_none_of_le beyond]
    rfl

/-- Filtering encoded text is filtering its characters. -/
theorem commands_utf8Bytes (characters : List Char) :
    commands (utf8Bytes characters) = characters.filterMap Opcode.ofSymbol? := by
  induction characters with
  | nil =>
      rfl
  | cons character rest inductionHypothesis =>
      rw [utf8Bytes_cons, commands_append, commands_utf8EncodeChar, inductionHypothesis]
      cases spelled : Opcode.ofSymbol? character with
      | none =>
          rw [List.filterMap_cons_none spelled]
          rfl
      | some opcode =>
          rw [List.filterMap_cons_some spelled]
          rfl

/-- A chunk that fits is appended without asking for room. -/
theorem extend_of_fits
    {buffer : Buffer}
    {chunk : List UInt8}
    (room : buffer.size + (commands chunk).length ≤ buffer.capacity)
    (grants : Nat → Bool) :
    buffer.extend chunk grants =
      .ok (⟨buffer.contents ++ commands chunk, buffer.capacity, buffer.capacity_pos⟩,
        (commands chunk).length) := by
  unfold extend
  cases kept : commands chunk with
  | nil =>
      simp only [List.isEmpty_nil, ↓reduceIte, Array.appendList_nil, List.length_nil]
  | cons first more =>
      rw [kept] at room
      simp only [List.isEmpty_cons, Bool.false_eq_true, ↓reduceIte, reserve, room]
      rfl

theorem doubled_of_le
    {capacity needed : Nat}
    (capacity_pos : 0 < capacity)
    (fits : needed ≤ capacity) :
    doubled capacity needed capacity_pos = capacity := by
  unfold doubled
  rw [if_pos fits]

/-- A chunk that fits, or for which the cells are granted, is appended. -/
theorem exists_extend_of_room
    {buffer : Buffer}
    {chunk : List UInt8}
    (grants : Nat → Bool)
    (room : buffer.size + (commands chunk).length ≤ buffer.capacity ∨
      grants (doubled buffer.capacity (buffer.size + (commands chunk).length)
        buffer.capacity_pos) = true) :
    ∃ longer, buffer.extend chunk grants = .ok (longer, (commands chunk).length) ∧
      longer.contents.toList = buffer.contents.toList ++ commands chunk ∧
      (buffer.size ≤ buffer.capacity →
        longer.capacity =
          doubled buffer.capacity (buffer.size + (commands chunk).length)
            buffer.capacity_pos) := by
  by_cases fits : buffer.size + (commands chunk).length ≤ buffer.capacity
  · refine ⟨_, extend_of_fits fits grants, Array.toList_appendList, ?_⟩
    intro _
    exact (doubled_of_le buffer.capacity_pos fits).symm
  · have granted := room.resolve_left fits
    unfold extend
    cases kept : commands chunk with
    | nil =>
        refine ⟨buffer, rfl, (List.append_nil _).symm, ?_⟩
        intro within
        exact (doubled_of_le buffer.capacity_pos within).symm
    | cons first more =>
        rw [kept] at fits granted
        simp only [List.isEmpty_cons, Bool.false_eq_true, ↓reduceIte, reserve, fits, granted]
        exact ⟨_, rfl, Array.toList_appendList, fun _ => rfl⟩

/-- When room is granted, a chunk is appended, whether the buffer has to grow or not. -/
theorem exists_extend
    (buffer : Buffer)
    (chunk : List UInt8) :
    ∃ longer, buffer.extend chunk alwaysGranted = .ok (longer, (commands chunk).length) ∧
      longer.contents.toList = buffer.contents.toList ++ commands chunk := by
  obtain ⟨longer, extended, contents, _⟩ := exists_extend_of_room alwaysGranted (.inr rfl)
  exact ⟨longer, extended, contents⟩

end Buffer

namespace Source

/-- A source has no more commands than its length, which counts characters of text. -/
theorem length_commands_le (source : Source) :
    (Buffer.commands source.toBytes).length ≤ source.length := by
  cases source with
  | text content =>
      rw [toBytes, Buffer.commands_utf8Bytes, length, ← String.length_toList]
      exact List.length_filterMap_le _ _
  | bytes content =>
      exact List.length_filterMap_le _ _

end Source

namespace Program

/-- The buffer for a whole source has room for all its commands from the start. -/
theorem exists_filled
    (source : Source)
    (grants : Nat → Bool) :
    ∃ empty filled,
      Buffer.create (max Buffer.defaultCapacity source.length) alwaysGranted = .ok empty ∧
        empty.capacity = max 64 source.length ∧
        empty.extend source.toBytes grants = .ok (filled, filled.size) ∧
        filled.capacity = empty.capacity ∧
        filled.freeze = ofOpcodes (Buffer.commands source.toBytes) := by
  have capacity :
      max 1 (max Buffer.defaultCapacity source.length).toNat = max 64 source.length := by
    unfold Buffer.defaultCapacity
    omega
  let empty : Buffer := ⟨#[], max 1 (max Buffer.defaultCapacity source.length).toNat, by omega⟩
  have room : empty.size + (Buffer.commands source.toBytes).length ≤ empty.capacity := by
    have fewer := source.length_commands_le
    simp only [empty, Buffer.size, Array.size_empty, capacity]
    omega
  let filled : Buffer :=
    ⟨empty.contents ++ Buffer.commands source.toBytes, empty.capacity, empty.capacity_pos⟩
  have contents : filled.contents.toList = Buffer.commands source.toBytes := by
    simp only [filled, empty, Array.toList_appendList, List.nil_append]
  have size : filled.size = (Buffer.commands source.toBytes).length := by
    rw [Buffer.size, ← Array.length_toList, contents]
  refine ⟨empty, filled, rfl, capacity, ?_, rfl, ?_⟩
  · rw [size]
    exact Buffer.extend_of_fits room grants
  · rw [Buffer.freeze, contents]

/-- Loading a whole source keeps its commands. -/
theorem load_eq (source : Source) :
    load source = .ok (ofOpcodes (Buffer.commands source.toBytes)) := by
  obtain ⟨empty, filled, created, _, extended, _, frozen⟩ := exists_filled source alwaysGranted
  unfold load
  rw [Outcome.bind_of_ok created, Outcome.bind_of_ok extended]
  exact congrArg Except.ok frozen

theorem load_text_eq (content : String) :
    load (.text content) = .ok (ofOpcodes (content.toList.filterMap Opcode.ofSymbol?)) := by
  rw [load_eq, Source.toBytes, Buffer.commands_utf8Bytes]

theorem filterMap_ofSymbol?_map_symbol (opcodes : List Opcode) :
    (opcodes.map Opcode.symbol).filterMap Opcode.ofSymbol? = opcodes := by
  simp only [List.filterMap_map, Function.comp_def, Opcode.ofSymbol?_symbol,
    List.filterMap_some]

/-- The source text of a program of commands is loaded as that program. -/
theorem load_text_symbols (opcodes : List Opcode) :
    load (.text (String.ofList (opcodes.map Opcode.symbol))) = .ok (ofOpcodes opcodes) := by
  rw [load_text_eq, String.toList_ofList, filterMap_ofSymbol?_map_symbol]

theorem numbers_ofOpcodes (opcodes : List Opcode) :
    (ofOpcodes opcodes).numbers = opcodes.map fun opcode => (opcode.byte.toNat : Int) := by
  simp only [numbers, ofOpcodes, List.map_map, Function.comp_def, Opcode.toInt_word]

/-- A loaded program is loaded again from its own source text, which holds commands only. -/
theorem IsLoaded.reloads
    {program : Program}
    (loaded : program.IsLoaded) :
    ∃ source, program.toSource = .ok source ∧
      (∀ character ∈ source.toList, character ∈ Opcode.symbols) ∧
      load (.text source) = .ok program := by
  obtain ⟨opcodes, rfl⟩ := loaded.exists_opcodes
  refine ⟨_, toSource_ofOpcodes opcodes, ?_, load_text_symbols opcodes⟩
  intro character member
  rw [String.toList_ofList] at member
  obtain ⟨opcode, _, rfl⟩ := List.mem_map.mp member
  exact List.mem_map_of_mem opcode.mem_all

/-- A text that holds commands only is the source text of the program loaded from it. -/
theorem toSource_load_of_symbols
    {source : String}
    (commands : ∀ character ∈ source.toList, character ∈ Opcode.symbols) :
    (ofOpcodes (source.toList.filterMap Opcode.ofSymbol?)).toSource = .ok source := by
  have kept :
      (source.toList.filter fun character => Opcode.symbols.contains character) =
        source.toList := by
    rw [List.filter_eq_self]
    intro character member
    rw [List.contains_iff_mem]
    exact commands character member
  rw [toSource_ofOpcodes,
    Opcode.map_filterMap_eq_filter fun _ _ => Opcode.ofSymbol?_eq_some_iff]
  change Except.ok (String.ofList
    (source.toList.filter fun character => Opcode.symbols.contains character)) = _
  rw [kept, String.ofList_toList]

/-- What loading a whole source keeps of it, and what it needs for that. -/
structure LoadKeepsCommands : Prop where
  /-- Bytes are filtered to those that spell commands. -/
  bytes : ∀ content, ∃ program, load (.bytes content) = .ok program ∧
    program.numbers =
      (content.filter fun byte => Opcode.bytes.contains byte).map
        fun byte => (byte.toNat : Int)
  /-- Text is filtered to the characters that spell commands. -/
  text : ∀ content : String, ∃ program, load (.text content) = .ok program ∧
    program.numbers =
      (content.toList.filter fun character => Opcode.symbols.contains character).map
        fun character => (character.toNat : Int)
  /-- Text is loaded as its encoding is. -/
  encoded : ∀ content : String,
    load (.text content) = load (.bytes content.toUTF8.data.toList)
  /-- No byte of a character that takes several of them spells a command. -/
  severalBytes : ∀ character, 1 < (String.utf8EncodeChar character).length →
    ∀ byte ∈ String.utf8EncodeChar character, byte ∉ Opcode.bytes
  /-- A loaded program is loaded again from its source text, which holds commands only. -/
  reloads : ∀ program : Program, program.IsLoaded →
    ∃ source, program.toSource = .ok source ∧
      (∀ character ∈ source.toList, character ∈ Opcode.symbols) ∧
      load (.text source) = .ok program
  /-- A text that holds commands only is the source text of the program loaded from it. -/
  restores : ∀ source : String, (∀ character ∈ source.toList, character ∈ Opcode.symbols) →
    ∃ program, load (.text source) = .ok program ∧ program.toSource = .ok source
  /-- The first buffer is as large as the source, at least 64, and never grows. -/
  roomy : ∀ source grants, ∃ empty filled,
    Buffer.create (max Buffer.defaultCapacity source.length) alwaysGranted = .ok empty ∧
      empty.capacity = max 64 source.length ∧
      empty.extend source.toBytes grants = .ok (filled, filled.size) ∧
      filled.capacity = empty.capacity ∧
      load source = .ok filled.freeze

/-- Loading keeps exactly the commands of its source, and never needs a larger buffer. -/
theorem load_keepsCommands : LoadKeepsCommands where
  bytes content := by
    refine ⟨_, load_eq (.bytes content), ?_⟩
    rw [numbers_ofOpcodes, Source.toBytes, Opcode.bytes,
      ← Opcode.map_filterMap_eq_filter fun _ _ => Opcode.ofByte?_eq_some_iff, List.map_map]
    rfl
  text content := by
    refine ⟨_, load_text_eq content, ?_⟩
    rw [numbers_ofOpcodes, Opcode.symbols,
      ← Opcode.map_filterMap_eq_filter fun _ _ => Opcode.ofSymbol?_eq_some_iff, List.map_map]
    simp only [Opcode.toNat_byte, Function.comp_def]
  encoded content := by
    rw [load_eq, load_eq, Source.toBytes, Source.toBytes, utf8Bytes_toList]
  severalBytes character several byte member := by
    by_cases ascii : character.toNat < 128
    · rw [utf8EncodeChar_of_lt ascii] at several
      exact absurd several (Nat.lt_irrefl 1)
    · exact Opcode.not_mem_bytes_of_le
        (le_toNat_of_mem_utf8EncodeChar (Nat.le_of_not_lt ascii) member)
  reloads _ loaded := loaded.reloads
  restores source commands :=
    ⟨_, load_text_eq source, toSource_load_of_symbols commands⟩
  roomy source grants := by
    obtain ⟨empty, filled, created, capacity, extended, kept, frozen⟩ :=
      exists_filled source grants
    refine ⟨empty, filled, created, capacity, extended, kept, ?_⟩
    rw [load_eq, frozen]

/-- Two commands among characters of two and three bytes. -/
theorem load_keepsCommands_wide_characters :
    ∃ program, load (.text "ñ+→.") = .ok program ∧ program.numbers = [43, 46] := by
  obtain ⟨program, loads, numbers⟩ := load_keepsCommands.text "ñ+→."
  exact ⟨program, loads, numbers.trans (by cbv)⟩

end Program

end Brainfuck
