import Brainfuck.Address
import Brainfuck.Failure
import Brainfuck.Opcode

namespace Brainfuck

/-!
# Programs

A program is a sequence of 32-bit words.  The loader only ever stores the words
of commands, and `Program.ofOpcodes` gives exactly those programs; a program
that is put together from numbers may hold other words, which the machine skips
and which have no place in source text or in generated code.
-/

/-- A sequence of program words. -/
structure Program where
  words : Array Int32
  deriving Repr, DecidableEq, Inhabited

namespace Program

/-- The program that consists of the given commands. -/
def ofOpcodes (opcodes : List Opcode) : Program :=
  ⟨(opcodes.map Opcode.word).toArray⟩

/-- Numbers from this one on, and below its negative, have more than 32 bits. -/
def wordLimit : Int :=
  2147483648

/-- Numbers from this one on, and below its negative, have more than 64 bits. -/
def indexLimit : Int :=
  9223372036854775808

/-- A number as a program word, if it has 32 bits. -/
def wordOfNumber (number : Int) : Outcome Int32 :=
  if -wordLimit ≤ number ∧ number < wordLimit then .ok (Int32.ofInt number)
  else .error .wordTooWide

/-- The program that consists of the given numbers, which need 32 bits at most. -/
def ofNumbers (numbers : List Int) : Outcome Program := do
  let words ← numbers.mapM wordOfNumber
  return ⟨words.toArray⟩

/-- The number of words. -/
def size (program : Program) : Nat :=
  program.words.size

/-- The words as numbers. -/
def numbers (program : Program) : List Int :=
  program.words.toList.map Int32.toInt

/-- The word at an address, if the program has that address. -/
def wordAt?
    (program : Program)
    (address : Int) :
    Option Int32 :=
  elementAt? program.words address

/-- The command at an address, if there is one. -/
def opcodeAt?
    (program : Program)
    (address : Int) :
    Option Opcode :=
  (program.wordAt? address).bind Opcode.ofWord?

/-- The command that a word stands for; every other word is a failure. -/
def decode (word : Int32) : Outcome Opcode :=
  match Opcode.ofWord? word with
  | some opcode => .ok opcode
  | none => .error (.notOpcode word.toInt)

/-- The command at an address; an address outside the program is a failure. -/
def get
    (program : Program)
    (address : Int) :
    Outcome Opcode :=
  if address < -indexLimit ∨ indexLimit ≤ address then
    .error .indexTooWide
  else
    match program.wordAt? address with
    | some word => decode word
    | none => .error (.outsideArray address program.size)

/-- The commands in order; the first word that is none is a failure. -/
def opcodes (program : Program) : Outcome (List Opcode) :=
  program.words.toList.mapM decode

/-- How many words equal a number. -/
def count
    (program : Program)
    (number : Int) :
    Nat :=
  program.words.toList.countP fun word => word.toInt = number

/-- How many words stand for a command. -/
def countOpcode
    (program : Program)
    (opcode : Opcode) :
    Nat :=
  program.count opcode.word.toInt

/-- The low eight bits of a word. -/
def lowByte (word : Int32) : UInt8 :=
  UInt8.ofInt word.toInt

/-- The characters of a list of ASCII bytes; the first byte beyond ASCII is a failure. -/
def asciiText (bytes : List UInt8) : Outcome String :=
  match bytes.findIdx? fun byte => 128 ≤ byte with
  | none => .ok (String.ofList (bytes.map Char.ofUInt8))
  | some position => .error (.notAscii (bytes.getD position 0) position)

/-- The program as source text. -/
def toSource (program : Program) : Outcome String :=
  asciiText (program.words.toList.map lowByte)

/-- The longest source text that a summary shows whole. -/
def summaryLimit : Nat :=
  40

/-- How much of a longer source text a summary shows. -/
def summaryLength : Nat :=
  37

/-- A program on one line: its source, cut off when it is long, and its size. -/
def summary (program : Program) : Outcome String := do
  let source ← program.toSource
  let shown :=
    if source.length > summaryLimit then
      String.ofList (source.toList.take summaryLength) ++ "..."
    else source
  return s!"Program({Text.quoted shown}, length={program.size})"

end Program

end Brainfuck
