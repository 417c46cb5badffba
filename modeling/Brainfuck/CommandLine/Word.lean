import Brainfuck.CommandLine.Usage
import Brainfuck.Text.DecimalDigit

namespace Brainfuck.CommandLine

/-!
# Words

Before anything is done, each word of the command line is given its role by its
form alone.  The first `--` is the terminator, and every word behind it is an
operand.  Of the words in front of it, those that begin with a dash are
switches, which may be abbreviated as long as they are unambiguous, unless they
look like negative numbers or hold a space.
-/

/-- The role of a word; `name` is the switch's full name that the word stands for. -/
inductive Role where
  | operand
  | terminator
  | switch (switch : Switch) (name : String) (attached : Option String)
  | unknown
  deriving Repr, DecidableEq

/-- A word with its role. -/
structure Word where
  text : String
  role : Role
  deriving Repr, DecidableEq

/-- The parts of a word in front of and behind its first equals sign. -/
def splitAtEquals? (word : String) : Option (String × String) :=
  match word.toList.dropWhile fun character => character ≠ '=' with
  | [] => none
  | _ :: value =>
      some (String.ofList (word.toList.takeWhile fun character => character ≠ '='),
        String.ofList value)

/-- The switches that a word of two dashes may abbreviate, with an attached value. -/
def longCandidates (word : String) : List Role :=
  let (start, attached) :=
    match splitAtEquals? word with
    | some (name, value) => (name, some value)
    | none => (word, none)
  Switch.table.filterMap fun (name, switch) =>
    if start.toList.isPrefixOf name.toList then some (.switch switch name attached) else none

/-- The switch whose one-letter name starts a word of one dash; the rest is attached. -/
def shortCandidates (word : String) : List Role :=
  let name := String.ofList (word.toList.take 2)
  match Switch.ofName? name with
  | some switch => [.switch switch name (some (String.ofList (word.toList.drop 2)))]
  | none => []

/-- The roles that a word may have as an abbreviation. -/
def candidates (word : String) : List Role :=
  match word.toList with
  | '-' :: '-' :: _ => longCandidates word
  | _ => shortCandidates word

/-- Whether characters are decimal digits, at least one. -/
def areDigits (characters : List Char) : Bool :=
  !characters.isEmpty && characters.all Text.isDecimalDigit

/-- Whether characters are an unsigned number, of which the integer part may be missing. -/
def isUnsignedNumber (characters : List Char) : Bool :=
  areDigits characters ||
    match characters.dropWhile Text.isDecimalDigit with
    | '.' :: fraction => areDigits fraction
    | _ => false

/-- Whether a word looks like a negative number; one line feed may follow it. -/
def isNegativeNumber (word : String) : Bool :=
  match word.toList with
  | '-' :: rest =>
      isUnsignedNumber (if rest.getLast? = some '\n' then rest.dropLast else rest)
  | _ => false

/-- The name that a role stands for. -/
def Role.name? : Role → Option String
  | .switch _ name _ => some name
  | _ => none

/-- The role of a word that is no name of a switch as it stands. -/
def roleOfOther (word : String) : Except UsageError Role :=
  match candidates word with
  | [role] => .ok role
  | [] =>
      if isNegativeNumber word || word.toList.contains ' ' then .ok .operand else .ok .unknown
  | several => .error (.ambiguous word (several.filterMap Role.name?))

/-- The role of a word in front of the terminator. -/
def roleOf (word : String) : Except UsageError Role :=
  if word.toList.head? ≠ some '-' then
    .ok .operand
  else
    match Switch.ofName? word with
    | some switch => .ok (.switch switch word none)
    | none =>
        if word = "-" then
          .ok .operand
        else
          match splitAtEquals? word with
          | none => roleOfOther word
          | some (name, value) =>
              match Switch.ofName? name with
              | some switch => .ok (.switch switch name (some value))
              | none => roleOfOther word

/-- The words of a command line with their roles. -/
def classify : List String → Except UsageError (List Word)
  | [] => .ok []
  | text :: rest =>
      if text = "--" then
        .ok (⟨text, .terminator⟩ :: rest.map fun operand => ⟨operand, .operand⟩)
      else do
        let role ← roleOf text
        let words ← classify rest
        return ⟨text, role⟩ :: words

end Brainfuck.CommandLine
