import Brainfuck.Text.Printable

namespace Brainfuck.Text

/-!
# Quoted text

A text is shown between quotes on one line.  The quote is a single one unless
the text holds single quotes and no double one.  Backslashes and the quote in
use are escaped, line feeds, carriage returns and tabs have short escapes, and
every other character that does not print is written by its code point.
-/

/-- The lower-case hexadecimal digits of a number, padded with zeros to a width. -/
def hexadecimal
    (width : Nat)
    (number : Nat) :
    List Char :=
  let digits := Nat.toDigits 16 number
  List.replicate (width - digits.length) '0' ++ digits

/-- The quote for a text: single, unless that needs escapes and a double one does not. -/
def quoteFor (characters : List Char) : Char :=
  if characters.contains '\'' && !characters.contains '"' then '"' else '\''

/-- One character as it stands between quotes. -/
def quotedCharacter
    (quote : Char)
    (character : Char) :
    List Char :=
  if character = quote ∨ character = '\\' then ['\\', character]
  else if character = '\n' then ['\\', 'n']
  else if character = '\r' then ['\\', 'r']
  else if character = '\t' then ['\\', 't']
  else if isPrintable character then [character]
  else if character.toNat < 0x100 then '\\' :: 'x' :: hexadecimal 2 character.toNat
  else if character.toNat < 0x10000 then '\\' :: 'u' :: hexadecimal 4 character.toNat
  else '\\' :: 'U' :: hexadecimal 8 character.toNat

/-- A text between quotes, with escapes. -/
def quoted (text : String) : String :=
  let quote := quoteFor text.toList
  String.ofList (quote :: text.toList.flatMap (quotedCharacter quote) ++ [quote])

end Brainfuck.Text
