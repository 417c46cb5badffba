import Brainfuck.Opcode

namespace Brainfuck.CSource

/-!
# Reading C source

Generated C source is read back without knowledge of how it was written: the
first lines open the function and declare its variables, each line behind them
spells one statement, and the last two lines close the function.  Blanks in
front of a line have no meaning.
-/

/-- A line of C that does something to the cursor, the cells or the console, or bounds a block. -/
inductive Statement where
  | cursorForward
  | cursorBack
  | cellUp
  | cellDown
  | putCell
  | getCell
  | whileCell
  | endWhile
  deriving Repr, DecidableEq, Inhabited

namespace Statement

/-- The statement that a line spells when the blanks in front of it are gone. -/
def ofText? (text : String) : Option Statement :=
  if text = "++i;" then some .cursorForward
  else if text = "--i;" then some .cursorBack
  else if text = "(*i)++;" then some .cellUp
  else if text = "(*i)--;" then some .cellDown
  else if text = "putchar(*i);" then some .putCell
  else if text = "if ((c = getchar()) != EOF) *i = (unsigned char)c;" then some .getCell
  else if text = "while (*i != 0) \x7b" then some .whileCell
  else if text = "\x7d" then some .endWhile
  else none

/-- The command that a statement carries out. -/
def opcode : Statement → Opcode
  | .cursorForward => .moveRight
  | .cursorBack => .moveLeft
  | .cellUp => .increment
  | .cellDown => .decrement
  | .putCell => .output
  | .getCell => .input
  | .whileCell => .loopOpen
  | .endWhile => .loopClose

end Statement

/-- A line without the blanks in front of it. -/
def unindented (line : String) : String :=
  String.ofList (line.toList.dropWhile fun character => character = ' ')

/-- The number that decimal digits spell, the most significant one first. -/
def decimalNumber (digits : List Char) : Nat :=
  digits.foldl (fun number digit => 10 * number + (digit.toNat - '0'.toNat)) 0

/-- What the declaration of the tape has in front of its size. -/
def declarationStart : List Char :=
  "unsigned char tape[".toList

/-- What the declaration of the tape has behind its size. -/
def declarationEnd : List Char :=
  "] = \x7b0\x7d;".toList

/-- The tape size in the line that declares the tape. -/
def tapeSizeOf? (line : String) : Option Nat :=
  let text := (unindented line).toList
  let size := text.drop declarationStart.length
  if declarationStart.isPrefixOf text ∧ size.takeWhile Char.isDigit ≠ [] ∧
      size.dropWhile Char.isDigit = declarationEnd then
    some (decimalNumber (size.takeWhile Char.isDigit))
  else none

/-- What generated C source says: the size of the tape, and the statements in order. -/
structure TranslationUnit where
  tapeSize : Nat
  statements : List Statement
  deriving Repr, DecidableEq

/-- The number of lines in front of the first statement. -/
def headerLength : Nat :=
  6

/-- The number of lines behind the last statement. -/
def footerLength : Nat :=
  2

/-- The lines between the header and the footer. -/
def bodyLines (lines : List String) : List String :=
  (lines.drop headerLength).take (lines.length - (headerLength + footerLength))

/-- Reads the lines of generated C source; lines of any other form are refused. -/
def read? (lines : List String) : Option TranslationUnit := do
  let tapeSize ← tapeSizeOf? (← lines[3]?)
  let statements ← (bodyLines lines).mapM fun line => Statement.ofText? (unindented line)
  if lines.take 3 = ["#include <stdio.h>", "", "int main() \x7b"] ∧
      ((lines.drop 4).take 2).map unindented = ["unsigned char *i = tape;", "int c;"] ∧
      (lines.drop (lines.length - footerLength)).map unindented = ["return 0;", "\x7d"] then
    return ⟨tapeSize, statements⟩
  else none

/-- The lines of a text, whether or not a line feed ends the last one. -/
def splitLines : List Char → List (List Char)
  | [] => []
  | character :: rest =>
      if character = '\n' then
        [] :: splitLines rest
      else
        match splitLines rest with
        | [] => [[character]]
        | line :: lines => (character :: line) :: lines

/-- Reads the text of generated C source. -/
def TranslationUnit.ofText? (text : String) : Option TranslationUnit :=
  read? ((splitLines text.toList).map String.ofList)

end Brainfuck.CSource
