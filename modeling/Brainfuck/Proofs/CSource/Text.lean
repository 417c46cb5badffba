import Brainfuck.CSource
import Brainfuck.CSource.Reading
import Brainfuck.Proofs.Text

namespace Brainfuck

/-!
# The text of C source

The lines of a program are a header, a line for each command, and a footer.
Read without the blanks in front of them, the lines say the size of the tape
and one statement for each command, in the order of the program.
-/

namespace Generator

/-- The lines of a sequence of commands, the first of which has a level of indentation. -/
def commandLines : Nat → List Opcode → List String
  | _, [] => []
  | level, .loopOpen :: rest =>
      (indentation level ++ statement .loopOpen) :: commandLines (level + 1) rest
  | level, .loopClose :: rest =>
      (indentation (level - 1) ++ statement .loopClose) :: commandLines (level - 1) rest
  | level, opcode :: rest => (indentation level ++ statement opcode) :: commandLines level rest

/-- The declaration of the tape. -/
def declaration (tapeSize : Nat) : String :=
  "unsigned char tape[" ++ toString tapeSize ++ "] = \x7b" ++ "0\x7d;"

/-- The lines in front of the first command. -/
def headerLines (tapeSize : Nat) : List String :=
  ["#include <stdio.h>", "", "int main() \x7b",
    indentation 1 ++ declaration tapeSize,
    indentation 1 ++ "unsigned char *i = tape;",
    indentation 1 ++ "int c;"]

/-- The lines behind the last command, which has left a level of indentation. -/
def footerLines (level : Nat) : List String :=
  [indentation level ++ "return 0;", indentation (level - 1) ++ "\x7d"]

/-- The generator behind the last line of a program. -/
def complete
    (tapeSize : Nat)
    (opcodes : List Opcode) :
    Generator :=
  (opcodes.foldl command (header tapeSize)).footer

theorem body_map_word
    (opcodes : List Opcode)
    (generator : Generator) :
    body (opcodes.map Opcode.word) generator = .ok () (opcodes.foldl command generator) := by
  induction opcodes generalizing generator with
  | nil =>
      rfl
  | cons opcode rest inductionHypothesis =>
      have decoded : Program.decode opcode.word = .ok opcode := by
        unfold Program.decode
        rw [Opcode.ofWord?_word]
      rw [List.map_cons, body, decoded]
      exact inductionHypothesis (generator.command opcode)

/-- Each command adds its line. -/
theorem lines_foldl_command
    (opcodes : List Opcode)
    (generator : Generator) :
    (opcodes.foldl command generator).lines.toList =
      generator.lines.toList ++ commandLines generator.indent opcodes := by
  induction opcodes generalizing generator with
  | nil =>
      simp [commandLines]
  | cons opcode rest inductionHypothesis =>
      rw [List.foldl_cons, inductionHypothesis]
      cases opcode <;>
        simp [command, commandLines, write, indented, outdented, List.append_assoc]

/-- The C source of a sequence of commands with matching brackets, and the generator after it. -/
theorem generate_ofOpcodes
    {opcodes : List Opcode}
    {table : JumpTable}
    {generator : Generator}
    (resolved : (Program.ofOpcodes opcodes).resolveLoops = .ok table)
    (numeral : Text.hasNumeral generator.tapeSize = true) :
    generate (Program.ofOpcodes opcodes) generator =
      .ok (complete generator.tapeSize opcodes).text (complete generator.tapeSize opcodes) := by
  have words : (Program.ofOpcodes opcodes).words.toList = opcodes.map Opcode.word := rfl
  unfold generate
  rw [resolved, words, body_map_word]
  exact if_pos numeral

/-- A tape size that cannot be written stops the generator in the middle of the header. -/
theorem generate_of_not_hasNumeral
    {program : Program}
    {table : JumpTable}
    {generator : Generator}
    (resolved : program.resolveLoops = .ok table)
    (huge : Text.hasNumeral generator.tapeSize = false) :
    generate program generator = .error .numeralTooLong (opened generator.tapeSize) := by
  unfold generate
  rw [resolved]
  exact if_neg (Bool.eq_false_iff.mp huge)

/-- The lines of a program are a header, a line for each command, and a footer. -/
theorem lines_complete
    (tapeSize : Nat)
    (opcodes : List Opcode) :
    (complete tapeSize opcodes).lines.toList =
      headerLines tapeSize ++ commandLines 1 opcodes ++
        footerLines (opcodes.foldl command (header tapeSize)).indent := by
  have opened : (header tapeSize).lines.toList = headerLines tapeSize := rfl
  have level : (header tapeSize).indent = 1 := rfl
  have body := lines_foldl_command opcodes (header tapeSize)
  rw [opened, level] at body
  simp [complete, footer, write, outdented, footerLines, body]

end Generator

namespace CSource

open Generator

/-- The statement that carries out a command. -/
def Statement.ofOpcode : Opcode → Statement
  | .moveRight => .cursorForward
  | .moveLeft => .cursorBack
  | .increment => .cellUp
  | .decrement => .cellDown
  | .output => .putCell
  | .input => .getCell
  | .loopOpen => .whileCell
  | .loopClose => .endWhile

theorem unindented_indentation
    (level : Nat)
    (line : String) :
    unindented (indentation level ++ line) = unindented line := by
  unfold unindented indentation
  rw [String.toList_append, String.toList_ofList, List.dropWhile_append_of_pos]
  intro character member
  rw [List.eq_of_mem_replicate member]
  decide

theorem ofText?_statement
    (level : Nat)
    (opcode : Opcode) :
    Statement.ofText? (unindented (indentation level ++ statement opcode)) =
      some (Statement.ofOpcode opcode) := by
  rw [unindented_indentation]
  cases opcode <;> cbv

theorem mapM_commandLines
    (level : Nat)
    (opcodes : List Opcode) :
    (commandLines level opcodes).mapM (fun line => Statement.ofText? (unindented line)) =
      some (opcodes.map Statement.ofOpcode) := by
  induction opcodes generalizing level with
  | nil =>
      rfl
  | cons opcode rest inductionHypothesis =>
      cases opcode <;>
        simp [commandLines, ofText?_statement, inductionHypothesis]

theorem decimalNumber_toDigits (number : Nat) :
    decimalNumber (Nat.toDigits 10 number) = number := by
  unfold decimalNumber
  rw [← Nat.ofDigitChars_eq_foldl, Nat.ofDigitChars_ten_toDigits]

/-- The size of the tape is read back from its declaration. -/
theorem tapeSizeOf?_declaration (tapeSize : Nat) :
    tapeSizeOf? (indentation 1 ++ declaration tapeSize) = some tapeSize := by
  have digits : ∀ character ∈ Nat.toDigits 10 tapeSize, character.isDigit = true :=
    fun character member => Nat.isDigit_of_mem_toDigits (by decide) (by decide) member
  have spelled :
      (unindented (declaration tapeSize)).toList =
        declarationStart ++ (Nat.toDigits 10 tapeSize ++ declarationEnd) := by
    unfold unindented declaration
    rw [String.toList_ofList]
    simp only [String.toList_append, Nat.toString_eq_ofList_toDigits, String.toList_ofList,
      List.append_assoc]
    rfl
  have number :
      (Nat.toDigits 10 tapeSize ++ declarationEnd).takeWhile Char.isDigit =
        Nat.toDigits 10 tapeSize := by
    rw [List.takeWhile_append_of_pos digits]
    exact List.append_nil _
  have behind :
      (Nat.toDigits 10 tapeSize ++ declarationEnd).dropWhile Char.isDigit = declarationEnd := by
    rw [List.dropWhile_append_of_pos digits]
    rfl
  unfold tapeSizeOf?
  rw [unindented_indentation, spelled]
  simp only [List.drop_left, number, behind, decimalNumber_toDigits]
  simp [Nat.toDigits_ne_nil]

/-- The body of a text is what stands between six lines and two. -/
theorem bodyLines_append
    {front body behind : List String}
    (frontLength : front.length = headerLength)
    (behindLength : behind.length = footerLength) :
    bodyLines (front ++ (body ++ behind)) = body := by
  have count :
      (front ++ (body ++ behind)).length - (headerLength + footerLength) = body.length := by
    rw [List.length_append, List.length_append, frontLength, behindLength]
    omega
  unfold bodyLines
  rw [count, ← frontLength, List.drop_left, List.take_left]

theorem drop_footer
    {front behind : List String}
    (behindLength : behind.length = footerLength) :
    (front ++ behind).drop ((front ++ behind).length - footerLength) = behind := by
  rw [List.length_append, behindLength, Nat.add_sub_cancel, List.drop_left]

/-- The lines of a program are read back as its tape size and its statements. -/
theorem read?_lines
    (tapeSize : Nat)
    (opcodes : List Opcode) :
    read? (complete tapeSize opcodes).lines.toList =
      some ⟨tapeSize, opcodes.map Statement.ofOpcode⟩ := by
  rw [lines_complete]
  generalize (opcodes.foldl command (header tapeSize)).indent = last
  have body :
      bodyLines (headerLines tapeSize ++ commandLines 1 opcodes ++ footerLines last) =
        commandLines 1 opcodes := by
    rw [List.append_assoc]
    exact bodyLines_append rfl rfl
  have behind :
      (headerLines tapeSize ++ commandLines 1 opcodes ++ footerLines last).drop
          ((headerLines tapeSize ++ commandLines 1 opcodes ++ footerLines last).length -
            footerLength) =
        footerLines last :=
    drop_footer rfl
  have opened :
      (headerLines tapeSize ++ commandLines 1 opcodes ++ footerLines last).take 3 =
        ["#include <stdio.h>", "", "int main() \x7b"] :=
    rfl
  have declared :
      (headerLines tapeSize ++ commandLines 1 opcodes ++ footerLines last)[3]? =
        some (indentation 1 ++ declaration tapeSize) :=
    rfl
  have declarations :
      (((headerLines tapeSize ++ commandLines 1 opcodes ++ footerLines last).drop 4).take
          2).map unindented =
        ["unsigned char *i = tape;", "int c;"] := by
    change [unindented (indentation 1 ++ "unsigned char *i = tape;"),
      unindented (indentation 1 ++ "int c;")] = _
    rw [unindented_indentation, unindented_indentation]
    cbv
  have closed : (footerLines last).map unindented = ["return 0;", "\x7d"] := by
    unfold footerLines
    rw [List.map_cons, List.map_cons, unindented_indentation, unindented_indentation]
    cbv
  unfold read?
  rw [declared, body, behind, mapM_commandLines, opened, declarations, closed]
  simp [tapeSizeOf?_declaration]

/-- A line feed ends the first line of a text. -/
theorem splitLines_append
    {line : List Char}
    (unbroken : '\n' ∉ line)
    (rest : List Char) :
    splitLines (line ++ '\n' :: rest) = line :: splitLines rest := by
  induction line with
  | nil =>
      simp [splitLines]
  | cons character line inductionHypothesis =>
      have notFeed : character ≠ '\n' := by
        rintro rfl
        exact unbroken List.mem_cons_self
      have later := inductionHypothesis fun member =>
        unbroken (List.mem_cons_of_mem character member)
      rw [List.cons_append, splitLines, if_neg notFeed, later]

/-- Unbroken lines are read back from the text that they make up. -/
theorem splitLines_text
    {generator : Generator}
    (unbroken : ∀ line ∈ generator.lines.toList, '\n' ∉ line.toList) :
    (splitLines generator.text.toList).map String.ofList = generator.lines.toList := by
  unfold text
  generalize generator.lines.toList = lines at unbroken ⊢
  induction lines with
  | nil =>
      rfl
  | cons line rest inductionHypothesis =>
      have first := unbroken line List.mem_cons_self
      have later := inductionHypothesis fun other member =>
        unbroken other (List.mem_cons_of_mem line member)
      rw [List.map_cons, String.join_cons, String.toList_append, String.toList_append]
      have feed : "\n".toList = ['\n'] := rfl
      rw [feed, List.append_assoc, List.singleton_append, splitLines_append first,
        List.map_cons, String.ofList_toList, later]

theorem unbroken_indentation
    {line : String}
    (unbroken : '\n' ∉ line.toList)
    (level : Nat) :
    '\n' ∉ (indentation level ++ line).toList := by
  unfold indentation
  rw [String.toList_append, String.toList_ofList, List.mem_append, not_or]
  refine ⟨?_, unbroken⟩
  intro member
  have blank := List.eq_of_mem_replicate member
  cases blank

theorem unbroken_statement (opcode : Opcode) :
    '\n' ∉ (statement opcode).toList := by
  cases opcode <;> decide

theorem unbroken_commandLines
    {level : Nat}
    {opcodes : List Opcode}
    {line : String}
    (member : line ∈ commandLines level opcodes) :
    '\n' ∉ line.toList := by
  induction opcodes generalizing level with
  | nil =>
      cases member
  | cons opcode rest inductionHypothesis =>
      have spelled :
          ∃ blanks later,
            commandLines level (opcode :: rest) =
              (indentation blanks ++ statement opcode) :: commandLines later rest := by
        cases opcode <;> exact ⟨_, _, rfl⟩
      obtain ⟨blanks, later, same⟩ := spelled
      rw [same, List.mem_cons] at member
      rcases member with rfl | behind
      · exact unbroken_indentation (unbroken_statement opcode) blanks
      · exact inductionHypothesis behind

theorem unbroken_declaration (tapeSize : Nat) :
    '\n' ∉ (declaration tapeSize).toList := by
  have digits := unbroken_natural tapeSize
  have front : '\n' ∉ "unsigned char tape[".toList := by decide
  have behind : '\n' ∉ "] = \x7b".toList := by decide
  have last : '\n' ∉ "0\x7d;".toList := by decide
  unfold declaration
  simp only [String.toList_append, List.mem_append, front, digits, behind, last, or_false,
    not_false_eq_true]

theorem unbroken_lines
    {tapeSize : Nat}
    {opcodes : List Opcode}
    {line : String}
    (member : line ∈ (complete tapeSize opcodes).lines.toList) :
    '\n' ∉ line.toList := by
  rw [lines_complete, List.mem_append, List.mem_append] at member
  rcases member with (front | body) | behind
  · simp only [headerLines, List.mem_cons, List.not_mem_nil, or_false] at front
    rcases front with rfl | rfl | rfl | rfl | rfl | rfl
    · decide
    · decide
    · decide
    · exact unbroken_indentation (unbroken_declaration tapeSize) 1
    · exact unbroken_indentation (by decide) 1
    · exact unbroken_indentation (by decide) 1
  · exact unbroken_commandLines body
  · simp only [footerLines, List.mem_cons, List.not_mem_nil, or_false] at behind
    rcases behind with rfl | rfl
    · exact unbroken_indentation (by decide) _
    · exact unbroken_indentation (by decide) _

/-- The text of a program is read back as its tape size and its statements. -/
theorem ofText?_text
    (tapeSize : Nat)
    (opcodes : List Opcode) :
    TranslationUnit.ofText? (complete tapeSize opcodes).text =
      some ⟨tapeSize, opcodes.map Statement.ofOpcode⟩ := by
  unfold TranslationUnit.ofText?
  rw [splitLines_text fun line member => unbroken_lines member, read?_lines]

end CSource

end Brainfuck
