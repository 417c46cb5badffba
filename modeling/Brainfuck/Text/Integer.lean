import Brainfuck.Text.Blank
import Brainfuck.Text.DecimalDigit

namespace Brainfuck.Text

/-!
# Integer numerals

An integer is written as decimal digits of any script, of which two neighbours
may be parted by one underscore, after an optional sign; blanks around it are
ignored.  Numerals of more than 4300 digits are neither read nor written.
-/

/-- The most digits that a numeral may have. -/
def maxNumeralDigits : Nat :=
  4300

/-- Whether a number has a numeral that is not too long. -/
def hasNumeral (number : Nat) : Bool :=
  (toString number).length ≤ maxNumeralDigits

/-- The values of the digits of an unsigned numeral, if it is well formed. -/
def digitValues? : List Char → Option (List Nat)
  | [] => none
  | [last] => (decimalValue? last).map fun digit => [digit]
  | first :: '_' :: rest => do
      let digit ← decimalValue? first
      let digits ← digitValues? rest
      some (digit :: digits)
  | first :: rest => do
      let digit ← decimalValue? first
      let digits ← digitValues? rest
      some (digit :: digits)

/-- The number that a list of decimal digits stands for, most significant digit first. -/
def numberOfDigits (digits : List Nat) : Nat :=
  digits.foldl (fun number digit => 10 * number + digit) 0

/-- The value of an unsigned numeral. -/
def readNatural? (characters : List Char) : Option Nat := do
  let digits ← digitValues? characters
  if digits.length ≤ maxNumeralDigits then some (numberOfDigits digits) else none

/-- The value of an integer numeral. -/
def readInteger? (text : String) : Option Int :=
  match trimBlanks text.toList with
  | '-' :: digits => (readNatural? digits).map fun number => -(number : Int)
  | '+' :: digits => (readNatural? digits).map fun number => (number : Int)
  | digits => (readNatural? digits).map fun number => (number : Int)

end Brainfuck.Text
