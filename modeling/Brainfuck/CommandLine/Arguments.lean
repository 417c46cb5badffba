import Brainfuck.CommandLine.Word
import Brainfuck.Engine
import Brainfuck.Text.Integer

namespace Brainfuck.CommandLine

/-!
# Arguments

What a command line asks for.  Flags may be joined in one word, and the rest of
a word behind a switch that takes a value is that value.  A value of two dashes
is dropped, so that the switch is given with nothing.  The first operand is the
program file; other operands and unknown switches are left over.
-/

/-- The value of a switch that was given; it may be nothing at all. -/
inductive Given (α : Type) where
  | value (value : α)
  | nothing
  deriving Repr, DecidableEq

/-- What a command line asks for. -/
structure Arguments where
  file : Option String
  parse : Option (Given String)
  tapeSize : Given Int
  intermediate : Bool
  compile : Bool
  output : Option (Given String)
  compiler : Option (Given String)
  noJit : Bool
  stats : Bool
  verbose : Bool
  deriving Repr, DecidableEq

namespace Arguments

/-- What an empty command line asks for. -/
def initial : Arguments where
  file := none
  parse := none
  tapeSize := .value Engine.defaultTapeSize
  intermediate := false
  compile := false
  output := none
  compiler := none
  noJit := false
  stats := false
  verbose := false

end Arguments

/-- Why parsing ended before all words were used. -/
inductive Stop where
  | help
  | usage (error : UsageError)
  deriving Repr, DecidableEq

/-- The switches of one word: flags, and a last switch with what is attached to it. -/
structure Joined where
  flags : List Switch
  last : Switch
  attached : Option String
  deriving Repr, DecidableEq

namespace Joined

/-- Takes the letters behind a one-letter switch as more switches, or as its value. -/
def ofLetters
    (flags : List Switch)
    (switch : Switch) :
    List Char → Except Stop Joined
  | [] => .ok ⟨flags, switch, none⟩
  | letter :: rest =>
      if switch.takesValue then
        .ok ⟨flags, switch, some (String.ofList (letter :: rest))⟩
      else
        match Switch.ofLetter? letter with
        | some next => ofLetters (flags ++ [switch]) next rest
        | none => .error (.usage (.valueIgnored switch (String.ofList (letter :: rest))))

/-- Whether a name has a single dash. -/
def isShort (name : String) : Bool :=
  name.toList.getD 1 '-' ≠ '-'

/-- The switches of a word whose first switch and attached text are known. -/
def ofSwitch
    (switch : Switch)
    (name : String)
    (attached : Option String) :
    Except Stop Joined :=
  match attached with
  | none => .ok ⟨[], switch, none⟩
  | some text =>
      if switch.takesValue then .ok ⟨[], switch, some text⟩
      else if isShort name ∧ text ≠ "" then ofLetters [] switch text.toList
      else .error (.usage (.valueIgnored switch text))

end Joined

/--
The arguments found so far, whether the word in front was the file operand, and
the words left over.
-/
structure Draft where
  arguments : Arguments
  behindFile : Bool
  leftOver : List String
  deriving Repr, DecidableEq

namespace Draft

/-- Nothing found yet. -/
def initial : Draft where
  arguments := .initial
  behindFile := false
  leftOver := []

/-- Another word that is left over. -/
def leave
    (draft : Draft)
    (word : String) :
    Draft :=
  { draft with leftOver := draft.leftOver ++ [word], behindFile := false }

/-- An operand: the first one is the file, and others are left over. -/
def takeOperand
    (draft : Draft)
    (word : String) :
    Draft :=
  if draft.arguments.file.isSome then
    draft.leave word
  else
    { draft with arguments := { draft.arguments with file := some word }, behindFile := true }

/-- The terminator is left over too, unless the file operand is next to it. -/
def takeTerminator
    (draft : Draft)
    (word : String) :
    Draft :=
  if draft.arguments.file.isSome && !draft.behindFile then draft.leave word else draft

/-- A switch, behind which the file operand is no longer near. -/
def pass (draft : Draft) : Draft :=
  { draft with behindFile := false }

/-- Takes a flag; help ends the parsing, and the two modes exclude each other. -/
def takeFlag
    (draft : Draft)
    (switch : Switch) :
    Except Stop Draft :=
  let arguments := draft.arguments
  match switch with
  | .help => .error .help
  | .intermediate =>
      if arguments.compile then .error (.usage (.notTogether .intermediate .compile))
      else .ok { draft with arguments := { arguments with intermediate := true } }
  | .compile =>
      if arguments.intermediate then .error (.usage (.notTogether .compile .intermediate))
      else .ok { draft with arguments := { arguments with compile := true } }
  | .noJit => .ok { draft with arguments := { arguments with noJit := true } }
  | .stats => .ok { draft with arguments := { arguments with stats := true } }
  | .verbose => .ok { draft with arguments := { arguments with verbose := true } }
  | _ => .ok draft

/-- The value that a text gives to a switch. -/
def given (text : String) : Given String :=
  if text = "--" then .nothing else .value text

/-- Takes a switch with its value; the tape size has to be an integer. -/
def takeValue
    (draft : Draft)
    (switch : Switch)
    (text : String) :
    Except Stop Draft :=
  let arguments := draft.arguments
  match switch, given text with
  | .parse, value => .ok { draft with arguments := { arguments with parse := some value } }
  | .output, value => .ok { draft with arguments := { arguments with output := some value } }
  | .compiler, value => .ok { draft with arguments := { arguments with compiler := some value } }
  | .tapeSize, .nothing => .ok { draft with arguments := { arguments with tapeSize := .nothing } }
  | .tapeSize, .value numeral =>
      match Text.readInteger? numeral with
      | some size => .ok { draft with arguments := { arguments with tapeSize := .value size } }
      | none => .error (.usage (.notInteger .tapeSize numeral))
  | _, _ => .ok draft

/-- Takes several flags in order. -/
def takeFlags
    (draft : Draft)
    (switches : List Switch) :
    Except Stop Draft :=
  switches.foldlM takeFlag draft

/-- Takes the words of a command line in order. -/
def takeWords : List Word → Draft → Except Stop Draft
  | [], draft => .ok draft
  | ⟨text, .operand⟩ :: rest, draft => takeWords rest (draft.takeOperand text)
  | ⟨text, .terminator⟩ :: rest, draft => takeWords rest (draft.takeTerminator text)
  | ⟨text, .unknown⟩ :: rest, draft => takeWords rest (draft.leave text)
  | ⟨_, .switch switch name attached⟩ :: rest, draft => do
      let joined ← Joined.ofSwitch switch name attached
      match joined.last.takesValue, joined.attached with
      | true, some value =>
          let flagged ← draft.pass.takeFlags joined.flags
          let next ← flagged.takeValue joined.last value
          takeWords rest next
      | true, none =>
          match rest with
          | ⟨value, .operand⟩ :: behind =>
              let flagged ← draft.pass.takeFlags joined.flags
              let next ← flagged.takeValue joined.last value
              takeWords behind next
          | _ => throw (.usage (.valueExpected joined.last))
      | false, _ =>
          let next ← draft.pass.takeFlags (joined.flags ++ [joined.last])
          takeWords rest next

end Draft

/-- Parses a command line. -/
def parseArguments (words : List String) : Except Stop Arguments := do
  let classified ← (classify words).mapError Stop.usage
  let draft ← Draft.takeWords classified .initial
  if draft.leftOver.isEmpty then
    return draft.arguments
  else
    throw (.usage (.unrecognized draft.leftOver))

end Brainfuck.CommandLine
