import Brainfuck.Loop.Resolve

namespace Brainfuck

/-!
# C source

A program becomes a C program of one function: a zeroed tape of cells, a
cursor on its first cell, and one statement for each command.  Each loop is a
block whose statements are indented by one level more.

A generator keeps the lines and the indentation of its last program.  Brackets
that do not pair up leave it as it was; a tape size that has no numeral and a word
that is no command leave it half way.
-/

/-- The lines written so far, and the level of indentation of the next one. -/
structure Generator where
  tapeSize : Nat
  lines : Array String
  indent : Nat
  deriving Repr, DecidableEq

namespace Generator

/-- The C statement of a command. -/
def statement : Opcode → String
  | .moveRight => "++i;"
  | .moveLeft => "--i;"
  | .increment => "(*i)++;"
  | .decrement => "(*i)--;"
  | .output => "putchar(*i);"
  | .input => "if ((c = getchar()) != EOF) *i = (unsigned char)c;"
  | .loopOpen => "while (*i != 0) \x7b"
  | .loopClose => "\x7d"

/-- A generator that has written nothing; a tape without cells is refused. -/
def create (tapeSize : Int) : Outcome Generator :=
  if tapeSize < 1 then .error (.tapeSizeTooSmall tapeSize)
  else .ok ⟨tapeSize.toNat, #[], 0⟩

/-- The blanks in front of a line of some level. -/
def indentation (level : Nat) : String :=
  String.ofList (List.replicate (2 * level) ' ')

/-- One more line. -/
def write
    (generator : Generator)
    (line : String) :
    Generator :=
  { generator with lines := generator.lines.push (indentation generator.indent ++ line) }

/-- One level of indentation more. -/
def indented (generator : Generator) : Generator :=
  { generator with indent := generator.indent + 1 }

/-- One level of indentation less. -/
def outdented (generator : Generator) : Generator :=
  { generator with indent := generator.indent - 1 }

/-- The generator with the lines in front of the tape. -/
def opened (tapeSize : Nat) : Generator where
  tapeSize := tapeSize
  lines := #["#include <stdio.h>", "", "int main() \x7b"]
  indent := 1

/-- The generator with the lines in front of the first command. -/
def header (tapeSize : Nat) : Generator :=
  let taped :=
    (opened tapeSize).write
      ("unsigned char tape[" ++ toString tapeSize ++ "] = \x7b" ++ "0\x7d;")
  (taped.write "unsigned char *i = tape;").write "int c;"

/-- The line of one command. -/
def command
    (generator : Generator)
    (opcode : Opcode) :
    Generator :=
  match opcode with
  | .loopOpen => (generator.write (statement .loopOpen)).indented
  | .loopClose => generator.outdented.write (statement .loopClose)
  | opcode => generator.write (statement opcode)

/-- The lines of the words of a program; a word that is no command is a failure. -/
def body : List Int32 → EStateM Failure Generator Unit
  | [], generator => .ok () generator
  | word :: rest, generator =>
      match Program.decode word with
      | .error failure => .error failure generator
      | .ok opcode => body rest (generator.command opcode)

/-- The lines behind the last command. -/
def footer (generator : Generator) : Generator :=
  (generator.write "return 0;").outdented.write "\x7d"

/-- The lines as one text, each ended by a line feed. -/
def text (generator : Generator) : String :=
  String.join (generator.lines.toList.map fun line => line ++ "\n")

/-- The C source of a program, and the generator after it. -/
def generate (program : Program) : EStateM Failure Generator String := fun generator =>
  match program.resolveLoops with
  | .error failure => .error failure generator
  | .ok _ =>
      if Text.hasNumeral generator.tapeSize then
        match body program.words.toList (header generator.tapeSize) with
        | .error failure halfway => .error failure halfway
        | .ok _ complete => .ok complete.footer.text complete.footer
      else
        .error .numeralTooLong (opened generator.tapeSize)

end Generator

end Brainfuck
