namespace Brainfuck

/-!
# Opcodes

The eight commands of the language.  Each is spelled by one ASCII character,
and the code of that character is the number by which a program stores the
command.
-/

/-- A command of the language. -/
inductive Opcode where
  | moveRight
  | moveLeft
  | increment
  | decrement
  | output
  | input
  | loopOpen
  | loopClose
  deriving Repr, DecidableEq, Inhabited

namespace Opcode

/-- Every command, in the order in which the language is usually presented. -/
def all : List Opcode :=
  [.moveRight, .moveLeft, .increment, .decrement, .output, .input, .loopOpen, .loopClose]

/-- The character that spells a command. -/
def symbol : Opcode → Char
  | .moveRight => '>'
  | .moveLeft => '<'
  | .increment => '+'
  | .decrement => '-'
  | .output => '.'
  | .input => ','
  | .loopOpen => '['
  | .loopClose => ']'

/-- The byte that spells a command in source text. -/
def byte : Opcode → UInt8
  | .moveRight => 62
  | .moveLeft => 60
  | .increment => 43
  | .decrement => 45
  | .output => 46
  | .input => 44
  | .loopOpen => 91
  | .loopClose => 93

/-- The word that stands for a command in a program. -/
def word : Opcode → Int32
  | .moveRight => 62
  | .moveLeft => 60
  | .increment => 43
  | .decrement => 45
  | .output => 46
  | .input => 44
  | .loopOpen => 91
  | .loopClose => 93

/-- The name of a command. -/
def name : Opcode → String
  | .moveRight => "MOVE_RIGHT"
  | .moveLeft => "MOVE_LEFT"
  | .increment => "INCREMENT"
  | .decrement => "DECREMENT"
  | .output => "OUTPUT"
  | .input => "INPUT"
  | .loopOpen => "LOOP_OPEN"
  | .loopClose => "LOOP_CLOSE"

/-- The command that a byte of source text spells; every other byte is a comment. -/
def ofByte? (byte : UInt8) : Option Opcode :=
  if byte = 62 then some .moveRight
  else if byte = 60 then some .moveLeft
  else if byte = 43 then some .increment
  else if byte = 45 then some .decrement
  else if byte = 46 then some .output
  else if byte = 44 then some .input
  else if byte = 91 then some .loopOpen
  else if byte = 93 then some .loopClose
  else none

/-- The command that a program word stands for; every other word is skipped by the machine. -/
def ofWord? (word : Int32) : Option Opcode :=
  if word = 62 then some .moveRight
  else if word = 60 then some .moveLeft
  else if word = 43 then some .increment
  else if word = 45 then some .decrement
  else if word = 46 then some .output
  else if word = 44 then some .input
  else if word = 91 then some .loopOpen
  else if word = 93 then some .loopClose
  else none

/-- The command that a character of source text spells. -/
def ofSymbol? (character : Char) : Option Opcode :=
  all.find? fun opcode => opcode.symbol = character

/-- A command is read back from its byte. -/
@[simp]
theorem ofByte?_byte (opcode : Opcode) : ofByte? opcode.byte = some opcode := by
  cases opcode <;> rfl

/-- A command is read back from its word. -/
@[simp]
theorem ofWord?_word (opcode : Opcode) : ofWord? opcode.word = some opcode := by
  cases opcode <;> rfl

/-- A command is read back from its symbol. -/
@[simp]
theorem ofSymbol?_symbol (opcode : Opcode) : ofSymbol? opcode.symbol = some opcode := by
  cases opcode <;> rfl

end Opcode

end Brainfuck
