import Brainfuck.Console
import Brainfuck.Loop.JumpTable
import Brainfuck.Notice

namespace Brainfuck

/-!
# The machine

A machine has a tape of byte cells, a pointer into it, the address of the next
word and a count of the words executed.  `Machine.step` executes one word; a
step that fails leaves the machine as it was.
-/

/-- A tape with a pointer, the address of the next word, and the steps taken. -/
structure Machine where
  tape : Array UInt8
  pointer : Nat
  pc : Int
  steps : Nat
  deriving Repr, DecidableEq

/-- A machine and the state of its console after a step, and the failure of the step. -/
structure Transition (σ : Type) where
  failure : Option Failure
  machine : Machine
  channel : σ

namespace Machine

/-- The machine at the first address with its pointer on the first cell. -/
def start (tape : Array UInt8) : Machine where
  tape := tape
  pointer := 0
  pc := 0
  steps := 0

/-- Whether the machine is past the end of the program. -/
def isPast
    (machine : Machine)
    (program : Program) :
    Bool :=
  program.size ≤ machine.pc

/-- The value of the current cell. -/
def cell (machine : Machine) : UInt8 :=
  machine.tape.getD machine.pointer 0

/-- The machine with a new value in the current cell. -/
def store
    (machine : Machine)
    (value : UInt8) :
    Machine :=
  { machine with tape := machine.tape.setIfInBounds machine.pointer value }

/-- The machine with its pointer on another cell. -/
def point
    (machine : Machine)
    (pointer : Nat) :
    Machine :=
  { machine with pointer }

/-- The machine behind the word at `address`, one step later. -/
def behind
    (machine : Machine)
    (address : Int) :
    Machine :=
  { machine with pc := address + 1, steps := machine.steps + 1 }

/-- The machine behind the current word, one step later. -/
def advance (machine : Machine) : Machine :=
  machine.behind machine.pc

/-- The failure of a program whose word at `address` would move the pointer off the tape. -/
def boundsFailure
    (program : Program)
    (address : Int)
    (pointer : Int)
    (tapeSize : Nat) :
    Failure :=
  match program.toSource with
  | .error failure => failure
  | .ok source => .tapeBounds { address, pointer, tapeSize, source }

/-- A step that succeeds. -/
def proceed
    {σ : Type}
    (machine : Machine)
    (channel : σ) :
    Transition σ :=
  ⟨none, machine, channel⟩

/-- A step that fails. -/
def refuse
    {σ : Type}
    (machine : Machine)
    (channel : σ)
    (failure : Failure) :
    Transition σ :=
  ⟨some failure, machine, channel⟩

/-- A jump from a bracket to its partner. -/
def jump
    {σ : Type}
    (table : JumpTable)
    (machine : Machine)
    (channel : σ) :
    Transition σ :=
  match table.get machine.pc with
  | .ok target => proceed (machine.behind target) channel
  | .error failure => refuse machine channel failure

/-- The execution of one command. -/
def execute
    {σ : Type}
    (console : Console σ)
    (program : Program)
    (table : JumpTable)
    (opcode : Opcode)
    (machine : Machine)
    (channel : σ) :
    Transition σ :=
  match opcode with
  | .moveRight =>
      if machine.pointer + 1 < machine.tape.size then
        proceed (machine.point (machine.pointer + 1)).advance channel
      else
        refuse machine channel
          (boundsFailure program machine.pc (machine.pointer + 1) machine.tape.size)
  | .moveLeft =>
      if machine.pointer = 0 then
        refuse machine channel (boundsFailure program machine.pc (-1) machine.tape.size)
      else
        proceed (machine.point (machine.pointer - 1)).advance channel
  | .increment => proceed (machine.store (machine.cell + 1)).advance channel
  | .decrement => proceed (machine.store (machine.cell - 1)).advance channel
  | .output =>
      match console.write machine.cell channel with
      | (.ok _, next) => proceed machine.advance next
      | (.error cause, next) => refuse machine next (.outputFailed cause)
  | .input =>
      match console.read channel with
      | (.number value, next) => proceed (machine.store (UInt8.ofInt value)).advance next
      | (.endOfInput, next) => proceed machine.advance next
      | (.failure cause, next) => refuse machine next (.inputFailed cause)
  | .loopOpen =>
      if machine.cell = 0 then jump table machine channel else proceed machine.advance channel
  | .loopClose =>
      if machine.cell = 0 then proceed machine.advance channel else jump table machine channel

/-- The execution of the word at the current address; a word that is no command is skipped. -/
def step
    {σ : Type}
    (console : Console σ)
    (program : Program)
    (table : JumpTable)
    (machine : Machine)
    (channel : σ) :
    Transition σ :=
  match program.wordAt? machine.pc with
  | none => refuse machine channel (.outsideArray machine.pc program.size)
  | some word =>
      match Opcode.ofWord? word with
      | none => proceed machine.advance channel
      | some opcode => execute console program table opcode machine channel

end Machine

/-- How an execution ends; an unfinished one has run out of the fuel that it was given. -/
inductive Ending where
  | finished
  | failed (failure : Failure)
  | unfinished
  deriving Repr, DecidableEq

/-- The state in which an execution ends, and the notices that it gave. -/
structure Execution (σ : Type) where
  ending : Ending
  machine : Machine
  channel : σ
  notices : Array Notice

namespace Machine

/-- Executes word after word until the program ends, a step fails or the fuel is used up. -/
def runSteps
    {σ : Type}
    (console : Console σ)
    (program : Program)
    (table : JumpTable) :
    Nat → Machine → σ → Execution σ
  | 0, machine, channel => ⟨.unfinished, machine, channel, #[]⟩
  | fuel + 1, machine, channel =>
      if machine.isPast program then
        ⟨.finished, machine, channel, #[]⟩
      else
        match step console program table machine channel with
        | ⟨some failure, next, nextChannel⟩ => ⟨.failed failure, next, nextChannel, #[]⟩
        | ⟨none, next, nextChannel⟩ => runSteps console program table fuel next nextChannel

end Machine

end Brainfuck
