import Brainfuck.CSource.Reading

namespace Brainfuck.CSource

/-!
# Executing C source

Generated C source has a meaning of its own: cells are unsigned characters, the
cursor moves over a tape of a fixed size, `getchar` takes the next byte of the
input and reports its end for ever afterwards, and a block reaches from its
opening brace to the brace that closes it.  No jump table is involved.
Execution stops where the cursor would leave the tape.
-/

/-- The tape and the cursor of a C program, its remaining input and its output so far. -/
structure State where
  cells : Array UInt8
  cursor : Nat
  input : List UInt8
  output : Array UInt8
  deriving Repr, DecidableEq

namespace State

/-- The state in which a C program begins. -/
def initial
    (tapeSize : Nat)
    (input : List UInt8) :
    State where
  cells := Array.replicate tapeSize 0
  cursor := 0
  input := input
  output := #[]

/-- The value of the cell under the cursor. -/
def cell (state : State) : UInt8 :=
  state.cells.getD state.cursor 0

/-- The state with a new value in the cell under the cursor. -/
def assign
    (state : State)
    (value : UInt8) :
    State :=
  { state with cells := state.cells.setIfInBounds state.cursor value }

/-- The state after `putchar`. -/
def put (state : State) : State :=
  { state with output := state.output.push state.cell }

/-- The state after `getchar`, whose byte goes to the cell unless the input is at its end. -/
def get (state : State) : State :=
  match state.input with
  | [] => state
  | byte :: rest => { state.assign byte with input := rest }

end State

/-- How an execution ends; an escape tells where the cursor was about to go. -/
inductive Ending where
  | finished
  | escaped (cursor : Int)
  | malformed
  | unfinished
  deriving Repr, DecidableEq

/--
The statements of the block that a list begins with, and those behind its
closing brace, with `depth` inner blocks still open.
-/
def splitBlock? : Nat → List Statement → Option (List Statement × List Statement)
  | _, [] => none
  | 0, .endWhile :: rest => some ([], rest)
  | depth + 1, .endWhile :: rest =>
      (splitBlock? depth rest).map fun (block, behind) => (.endWhile :: block, behind)
  | depth, .whileCell :: rest =>
      (splitBlock? (depth + 1) rest).map fun (block, behind) => (.whileCell :: block, behind)
  | depth, statement :: rest =>
      (splitBlock? depth rest).map fun (block, behind) => (statement :: block, behind)

/-- Executes statements in order; a block is executed as long as the cell is not zero. -/
def execute : Nat → List Statement → State → Ending × State
  | 0, _, state => (.unfinished, state)
  | _ + 1, [], state => (.finished, state)
  | fuel + 1, statement :: rest, state =>
      match statement with
      | .cursorForward =>
          if state.cursor + 1 < state.cells.size then
            execute fuel rest { state with cursor := state.cursor + 1 }
          else (.escaped (state.cursor + 1), state)
      | .cursorBack =>
          if state.cursor = 0 then (.escaped (-1), state)
          else execute fuel rest { state with cursor := state.cursor - 1 }
      | .cellUp => execute fuel rest (state.assign (state.cell + 1))
      | .cellDown => execute fuel rest (state.assign (state.cell - 1))
      | .putCell => execute fuel rest state.put
      | .getCell => execute fuel rest state.get
      | .whileCell =>
          match splitBlock? 0 rest with
          | none => (.malformed, state)
          | some (block, behind) =>
              if state.cell = 0 then
                execute fuel behind state
              else
                match execute fuel block state with
                | (.finished, next) => execute fuel (.whileCell :: rest) next
                | stopped => stopped
      | .endWhile => (.malformed, state)

/-- Executes C source from its initial state. -/
def TranslationUnit.run
    (source : TranslationUnit)
    (input : List UInt8)
    (fuel : Nat) :
    Ending × State :=
  execute fuel source.statements (.initial source.tapeSize input)

end Brainfuck.CSource
