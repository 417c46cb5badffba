import Brainfuck.Proofs.CSource.Text
import Brainfuck.Proofs.Loop.Enclosure
import Brainfuck.Proofs.Numeral
import Brainfuck.Proofs.Options
import Brainfuck.Text.Blank

namespace Brainfuck.Generator

/-!
# The layout of C source

The C source of a balanced program has one line for each command between a header
and a footer, and a line is indented by the loops around its command: the level
of indentation is one more than the depth of the program, so that it never drops
below that of the body.  The tape size and the program are read back from the
lines, and no other tape size or program has the same source.
-/

/-- The generator that a call for a program leaves, whether the call succeeds or not. -/
def leave
    (generator : Generator)
    (program : Program) :
    Generator :=
  match generate program generator with
  | .ok _ left => left
  | .error _ left => left

/-- The generator that calls for some programs leave. -/
def afterCalls
    (generator : Generator)
    (programs : List Program) :
    Generator :=
  programs.foldl leave generator

/-- The command whose statement a text is. -/
def opcodeOf? (text : String) : Option Opcode :=
  Opcode.all.find? fun opcode => statement opcode = text

/-- A line without the blanks at its two ends. -/
def trimmed (line : String) : String :=
  String.ofList (Text.trimBlanks line.toList)

/--
The tape size and the program that C source spells: the size stands in the
fourth line, and each line of the body is the statement of a command.
-/
def decode? (text : String) : Option (Nat × Program) := do
  let lines := (CSource.splitLines text.toList).map String.ofList
  let tapeSize ← CSource.tapeSizeOf? (← lines[3]?)
  let opcodes ← (CSource.bodyLines lines).mapM fun line => opcodeOf? (trimmed line)
  return (tapeSize, .ofOpcodes opcodes)

/-- The generator behind the first commands of a program. -/
def behind
    (tapeSize : Nat)
    (opcodes : List Opcode)
    (count : Nat) :
    Generator :=
  (opcodes.take count).foldl command (header tapeSize)

/-- How the C source of a program is laid out, and what it says. -/
structure LaysOut
    (program : Program)
    (tapeSize : Nat)
    (text : String)
    (complete : Generator) :
    Prop where
  /-- The text consists of the lines, each ended by a line feed. -/
  text_eq : text = String.join (complete.lines.toList.map fun line => line ++ "\n")
  /-- No line holds another line feed. -/
  unbroken : ∀ line ∈ complete.lines.toList, '\n' ∉ line.toList
  /-- There are eight lines more than commands. -/
  length : complete.lines.size = program.size + 8
  /-- The first six lines open the function and declare the tape. -/
  header : complete.lines.toList.take 6 =
    ["#include <stdio.h>", "", "int main() \x7b",
      "  unsigned char tape[" ++ toString tapeSize ++ "] = \x7b" ++ "0\x7d;",
      "  unsigned char *i = tape;", "  int c;"]
  /-- Each command has its line, indented by the loops around it. -/
  commands : ∀ address, address < program.size →
    ∃ opcode, program.opcodeAt? address = some opcode ∧
      complete.lines[6 + address]? =
        some (String.ofList
            (List.replicate (2 * (1 + (program.loopsAround address).card)) ' ') ++
          statement opcode)
  /-- A loop ends on the level on which it begins. -/
  partners : ∀ first last, program.IsLoop first last →
    (program.loopsAround last).card = (program.loopsAround first).card
  /-- The last two lines close the function. -/
  footer : complete.lines.toList.drop (program.size + 6) = ["  return 0;", "\x7d"]
  /-- Between two commands the level of indentation is one more than the depth. -/
  levels : ∀ count, count ≤ program.size →
    ∃ current, body (program.words.toList.take count) (Generator.header tapeSize) =
        .ok () current ∧
      current.lines.toList = complete.lines.toList.take (6 + count) ∧
      (current.indent : Int) = 1 + program.depth count ∧
      1 ≤ current.indent
  /-- No indentation is left in the end. -/
  level : complete.indent = 0
  /-- The tape size and the program are read back. -/
  decodes : decode? text = some (tapeSize, program)

/-- Whether a text is C source of one program for one tape size only, of those that are loaded. -/
def IsSourceOnlyOf
    (text : String)
    (program : Program)
    (tapeSize : Nat) :
    Prop :=
  ∀ (other : Program) (otherSize : Nat) (fresh : Generator) (earlier : List Program)
    (left : Generator),
    other.IsLoaded →
      create otherSize = .ok fresh →
        generate other (fresh.afterCalls earlier) = .ok text left →
          otherSize = tapeSize ∧ other = program

variable
  {opcodes : List Opcode}
  {generator : Generator}

/-! ## Calls keep the size of the tape -/

theorem tapeSize_command
    (generator : Generator)
    (opcode : Opcode) :
    (generator.command opcode).tapeSize = generator.tapeSize := by
  cases opcode <;> rfl

theorem tapeSize_body
    (generator : Generator)
    (words : List Int32) :
    match body words generator with
    | .ok _ left => left.tapeSize = generator.tapeSize
    | .error _ left => left.tapeSize = generator.tapeSize := by
  induction words generalizing generator with
  | nil =>
      rfl
  | cons word rest inductionHypothesis =>
      unfold body
      cases Program.decode word with
      | error failure =>
          rfl
      | ok opcode =>
          rw [← tapeSize_command generator opcode]
          exact inductionHypothesis _

theorem tapeSize_leave
    (generator : Generator)
    (program : Program) :
    (generator.leave program).tapeSize = generator.tapeSize := by
  have kept := tapeSize_body (header generator.tapeSize) program.words.toList
  unfold leave generate
  cases program.resolveLoops with
  | error failure =>
      rfl
  | ok table =>
      cases numeral : Text.hasNumeral generator.tapeSize with
      | false =>
          rfl
      | true =>
          cases ran : body program.words.toList (header generator.tapeSize) with
          | error failure halfway =>
              rw [ran] at kept
              exact kept
          | ok _ complete =>
              rw [ran] at kept
              exact kept

theorem tapeSize_afterCalls
    (generator : Generator)
    (programs : List Program) :
    (generator.afterCalls programs).tapeSize = generator.tapeSize := by
  induction programs generalizing generator with
  | nil =>
      rfl
  | cons program rest inductionHypothesis =>
      exact (inductionHypothesis (generator.leave program)).trans (tapeSize_leave _ _)

/-! ## Levels -/

/-- A command changes the level as it changes the depth, unless there is no level left. -/
theorem indent_command
    {opcode : Opcode}
    (stays : 0 ≤ (generator.indent : Int) + nestingStep opcode.word) :
    ((generator.command opcode).indent : Int) =
      generator.indent + nestingStep opcode.word := by
  cases opcode with
  | loopOpen =>
      rfl
  | loopClose =>
      have outdented : (generator.command .loopClose).indent = generator.indent - 1 := rfl
      rw [nestingStep_loopClose] at stays ⊢
      omega
  | moveRight | moveLeft | increment | decrement | output | input =>
      exact (Int.add_zero _).symm

theorem behind_succ
    {count : Nat}
    (tapeSize : Nat)
    (inside : count < opcodes.length) :
    behind tapeSize opcodes (count + 1) =
      (behind tapeSize opcodes count).command opcodes[count] := by
  unfold behind
  rw [List.take_succ_eq_append_getElem inside, List.foldl_append]
  rfl

/-- The level of the body is one more than the depth. -/
theorem indent_behind
    {count : Nat}
    (tapeSize : Nat)
    (balanced : (Program.ofOpcodes opcodes).IsBalanced)
    (within : count ≤ opcodes.length) :
    ((behind tapeSize opcodes count).indent : Int) =
      1 + (Program.ofOpcodes opcodes).depth count := by
  induction count with
  | zero =>
      rfl
  | succ count inductionHypothesis =>
      have before := inductionHypothesis (Nat.le_of_succ_le within)
      have deeper :
          (Program.ofOpcodes opcodes).depth (count + 1) =
            (Program.ofOpcodes opcodes).depth count + nestingStep opcodes[count].word := by
        rw [Program.depth_ofOpcodes, Program.depth_ofOpcodes,
          List.take_succ_eq_append_getElem within, List.map_append, nesting_append]
        exact congrArg _ (Int.add_zero _)
      have above := balanced.nonnegative (count + 1) (by
        rw [Program.size_ofOpcodes]
        exact within)
      rw [behind_succ tapeSize within, indent_command (by omega), before, deeper]
      omega

theorem length_commandLines
    (level : Nat)
    (opcodes : List Opcode) :
    (commandLines level opcodes).length = opcodes.length := by
  induction opcodes generalizing level with
  | nil =>
      rfl
  | cons opcode rest inductionHypothesis =>
      cases opcode <;> exact congrArg Nat.succ (inductionHypothesis _)

/-- The first line of a sequence of commands is indented by the level behind a closing bracket. -/
theorem head?_commandLines
    (level : Nat)
    (opcode : Opcode)
    (rest : List Opcode) :
    (commandLines level (opcode :: rest)).head? =
      some (indentation (if opcode = .loopClose then level - 1 else level) ++
        statement opcode) := by
  cases opcode <;> rfl

theorem lines_behind
    (tapeSize : Nat)
    (opcodes : List Opcode)
    (count : Nat) :
    (behind tapeSize opcodes count).lines.toList =
      headerLines tapeSize ++ commandLines 1 (opcodes.take count) :=
  lines_foldl_command (opcodes.take count) (header tapeSize)

theorem length_lines_behind
    {count : Nat}
    (tapeSize : Nat)
    (within : count ≤ opcodes.length) :
    (behind tapeSize opcodes count).lines.toList.length = 6 + count := by
  rw [lines_behind, List.length_append, length_commandLines, List.length_take,
    Nat.min_eq_left within]
  rfl

/-- The lines of a program, cut in front of a command. -/
theorem lines_complete_eq
    (tapeSize : Nat)
    (opcodes : List Opcode)
    (count : Nat) :
    (complete tapeSize opcodes).lines.toList =
      (behind tapeSize opcodes count).lines.toList ++
        commandLines (behind tapeSize opcodes count).indent (opcodes.drop count) ++
        footerLines (opcodes.foldl command (header tapeSize)).indent := by
  have joined : (opcodes.drop count).foldl command (behind tapeSize opcodes count) =
      opcodes.foldl command (header tapeSize) := by
    unfold behind
    rw [← List.foldl_append, List.take_append_drop]
  rw [← lines_foldl_command, joined, lines_complete, lines_foldl_command]
  rfl

theorem take_lines_complete
    {count : Nat}
    (tapeSize : Nat)
    (within : count ≤ opcodes.length) :
    (complete tapeSize opcodes).lines.toList.take (6 + count) =
      (behind tapeSize opcodes count).lines.toList := by
  rw [lines_complete_eq tapeSize opcodes count, List.append_assoc]
  exact List.take_left' (length_lines_behind tapeSize within)

/-- The line of a command. -/
theorem getElem?_lines_complete
    {address : Nat}
    (tapeSize : Nat)
    (inside : address < opcodes.length) :
    (complete tapeSize opcodes).lines[6 + address]? =
      some (indentation
          (if opcodes[address] = .loopClose then (behind tapeSize opcodes address).indent - 1
            else (behind tapeSize opcodes address).indent) ++
        statement opcodes[address]) := by
  have start := length_lines_behind tapeSize (Nat.le_of_lt inside)
  rw [← Array.getElem?_toList, lines_complete_eq tapeSize opcodes address, List.append_assoc,
    List.getElem?_append_right (Nat.le_of_eq start), start, Nat.sub_self,
    List.drop_eq_getElem_cons inside, ← List.head?_eq_getElem?, List.head?_append,
    head?_commandLines]
  rfl

/-- The line of a command is indented by the loops around it. -/
theorem line_of_command
    {address : Nat}
    (tapeSize : Nat)
    (balanced : (Program.ofOpcodes opcodes).IsBalanced)
    (inside : address < opcodes.length) :
    (complete tapeSize opcodes).lines[6 + address]? =
      some (indentation (1 + ((Program.ofOpcodes opcodes).loopsAround address).card) ++
        statement opcodes[address]) := by
  have found : (Program.ofOpcodes opcodes).opcodeAt? address = some opcodes[address] := by
    rw [Program.opcodeAt?_ofOpcodes, List.getElem?_eq_getElem inside]
  have level := indent_behind tapeSize balanced (Nat.le_of_lt inside)
  rw [getElem?_lines_complete tapeSize inside]
  by_cases closes : opcodes[address] = .loopClose
  · rw [closes] at found
    have lower := Program.depth_succ_of_close found
    have around := Program.card_openLoops balanced (address + 1)
    rw [← Program.loopsAround_of_closes found] at around
    rw [if_pos closes,
      show (behind tapeSize opcodes address).indent - 1 =
        1 + ((Program.ofOpcodes opcodes).loopsAround address).card by omega]
  · have other : (Program.ofOpcodes opcodes).opcodeAt? address ≠ some .loopClose := by
      rw [found, ne_eq, Option.some.injEq]
      exact closes
    have around := Program.card_openLoops balanced address
    rw [← Program.loopsAround_of_not_closes other] at around
    rw [if_neg closes,
      show (behind tapeSize opcodes address).indent =
        1 + ((Program.ofOpcodes opcodes).loopsAround address).card by omega]

/-! ## Decoding -/

theorem opcodeOf?_statement (opcode : Opcode) :
    opcodeOf? (statement opcode) = some opcode := by
  cases opcode <;> decide

theorem trimmed_indentation
    (level : Nat)
    (opcode : Opcode) :
    trimmed (indentation level ++ statement opcode) = statement opcode := by
  have front :
      (indentation level ++ statement opcode).toList.dropWhile Text.isBlank =
        (statement opcode).toList.dropWhile Text.isBlank := by
    unfold indentation
    rw [String.toList_append, String.toList_ofList, List.dropWhile_append_of_pos]
    intro character member
    rw [List.eq_of_mem_replicate member]
    decide
  unfold trimmed Text.trimBlanks
  rw [front]
  cases opcode <;> decide

theorem mapM_opcodeOf?_commandLines
    (level : Nat)
    (opcodes : List Opcode) :
    (commandLines level opcodes).mapM (fun line => opcodeOf? (trimmed line)) =
      some opcodes := by
  induction opcodes generalizing level with
  | nil =>
      rfl
  | cons opcode rest inductionHypothesis =>
      cases opcode <;>
        simp [commandLines, trimmed_indentation, opcodeOf?_statement, inductionHypothesis]

/-- The tape size and the commands are read back from the text. -/
theorem decode?_text
    (tapeSize : Nat)
    (opcodes : List Opcode) :
    decode? (complete tapeSize opcodes).text = some (tapeSize, .ofOpcodes opcodes) := by
  unfold decode?
  rw [CSource.splitLines_text fun line member => CSource.unbroken_lines member, lines_complete]
  generalize (opcodes.foldl command (header tapeSize)).indent = last
  have declared :
      (headerLines tapeSize ++ commandLines 1 opcodes ++ footerLines last)[3]? =
        some (indentation 1 ++ declaration tapeSize) :=
    rfl
  have inner :
      CSource.bodyLines (headerLines tapeSize ++ commandLines 1 opcodes ++ footerLines last) =
        commandLines 1 opcodes := by
    rw [List.append_assoc]
    exact CSource.bodyLines_append rfl rfl
  simp only [declared, inner, mapM_opcodeOf?_commandLines, CSource.tapeSizeOf?_declaration,
    Option.bind_eq_bind, Option.bind_some]
  rfl

/-! ## The layout of a balanced program -/

theorem laysOut_complete
    (tapeSize : Nat)
    (balanced : (Program.ofOpcodes opcodes).IsBalanced) :
    LaysOut (.ofOpcodes opcodes) tapeSize (complete tapeSize opcodes).text
      (complete tapeSize opcodes) := by
  have size : (Program.ofOpcodes opcodes).size = opcodes.length :=
    Program.size_ofOpcodes opcodes
  have whole : behind tapeSize opcodes opcodes.length =
      opcodes.foldl command (Generator.header tapeSize) := by
    unfold behind
    rw [List.take_length]
  have last : (opcodes.foldl command (Generator.header tapeSize)).indent = 1 := by
    have level := indent_behind tapeSize balanced (Nat.le_refl opcodes.length)
    have closed := balanced.level
    rw [whole] at level
    rw [size] at closed
    omega
  have lines := lines_complete tapeSize opcodes
  rw [last] at lines
  constructor
  case text_eq => rfl
  case unbroken => exact fun line member => CSource.unbroken_lines member
  case length =>
    rw [← Array.length_toList, lines, List.length_append, List.length_append,
      length_commandLines, size]
    change 6 + opcodes.length + 2 = opcodes.length + 8
    omega
  case header =>
    have front := take_lines_complete tapeSize (Nat.zero_le opcodes.length)
    rw [lines_behind] at front
    exact front
  case commands =>
    intro address inside
    rw [size] at inside
    refine ⟨opcodes[address], ?_, line_of_command tapeSize balanced inside⟩
    rw [Program.opcodeAt?_ofOpcodes, List.getElem?_eq_getElem inside]
  case partners =>
    intro first last loop
    rw [loop.loopsAround_eq]
  case footer =>
    have front := length_lines_behind tapeSize (Nat.le_refl opcodes.length)
    rw [lines_behind, List.take_length] at front
    rw [lines, size, Nat.add_comm opcodes.length 6, List.drop_left' front]
    rfl
  case levels =>
    intro count within
    have below := balanced.nonnegative count within
    rw [size] at within
    have level := indent_behind tapeSize balanced within
    refine ⟨behind tapeSize opcodes count, ?_, (take_lines_complete tapeSize within).symm, level,
      by omega⟩
    have words : (Program.ofOpcodes opcodes).words.toList = opcodes.map Opcode.word := rfl
    rw [words, ← List.map_take]
    exact body_map_word (opcodes.take count) (Generator.header tapeSize)
  case level =>
    change (opcodes.foldl command (Generator.header tapeSize)).indent - 1 = 0
    rw [last]
  case decodes => exact decode?_text tapeSize opcodes

theorem tapeSize_of_create
    {tapeSize : Int}
    (created : create tapeSize = .ok generator) :
    (generator.tapeSize : Int) = tapeSize := by
  unfold create at created
  split at created
  · cases created
  · cases created
    exact Int.toNat_of_nonneg (by omega)

/-- The C source of a loaded program says for which tape and from which program it was made. -/
theorem decode?_of_generate
    {program : Program}
    {text : String}
    {left : Generator}
    (loaded : program.IsLoaded)
    (generated : generate program generator = .ok text left) :
    decode? text = some (generator.tapeSize, program) := by
  obtain ⟨opcodes, rfl⟩ := loaded.exists_opcodes
  cases resolved : (Program.ofOpcodes opcodes).resolveLoops with
  | error failure =>
      unfold generate at generated
      rw [resolved] at generated
      cases generated
  | ok table =>
      cases numeral : Text.hasNumeral generator.tapeSize with
      | false =>
          rw [generate_of_not_hasNumeral resolved numeral] at generated
          cases generated
      | true =>
          rw [generate_ofOpcodes resolved numeral] at generated
          cases generated
          exact decode?_text generator.tapeSize opcodes

end Brainfuck.Generator
