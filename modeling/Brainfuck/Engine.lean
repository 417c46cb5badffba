import Brainfuck.Loop.Resolve
import Brainfuck.Machine.Batch
import Brainfuck.Memory

namespace Brainfuck

/-!
# Engines

An engine is a program with its jump table and the settings for running it.
Its state outlives a run: the registers keep their last values, while the tape
only exists between a start and the end of a run.  A program may be run as a
whole, in batches or step by step, or stepped by hand.
-/

/-- A tape of zero cells, if the host grants that many. -/
def Host.newTape?
    (host : Host)
    (cells : Nat) :
    Option (Array UInt8) :=
  if host.grantsTape cells then some (Array.replicate cells 0) else none

/-- A program, its jump table, the settings for running it, and the host to run it on. -/
structure Engine where
  program : Program
  table : JumpTable
  tapeSize : Nat
  batched : Bool
  batchSteps : Nat
  host : Host

namespace Engine

/-- The tape size when nothing else is asked for. -/
def defaultTapeSize : Int :=
  30000

/-- The batch limit when nothing else is asked for. -/
def defaultBatchSteps : Int :=
  1000000

/-- Refuses a tape without cells. -/
def checkTapeSize (tapeSize : Int) : Outcome Unit :=
  if tapeSize < 1 then .error (.tapeSizeTooSmall tapeSize) else .ok ()

/-- Refuses a batch without steps. -/
def checkBatchSteps (batchSteps : Int) : Outcome Unit :=
  if batchSteps < 1 then .error (.batchTooSmall batchSteps) else .ok ()

/-- An engine on a host; its settings are checked before its loops are resolved. -/
def create
    (host : Host)
    (program : Program)
    (table? : Option JumpTable)
    (tapeSize : Int)
    (batched : Bool)
    (batchSteps : Int) :
    Outcome Engine := do
  checkTapeSize tapeSize
  checkBatchSteps batchSteps
  let table ←
    match table? with
    | some table => pure table
    | none => program.resolveLoops
  return {
    program
    table
    tapeSize := tapeSize.toNat
    batched
    batchSteps := batchSteps.toNat
    host }

/-- The state of an engine between two calls. -/
structure State (σ : Type) where
  tape : Option (Array UInt8)
  pointer : Nat
  pc : Int
  steps : Nat
  channel : σ
  notices : Array Notice

/-- An operation on the state of an engine. -/
abbrev Action (σ : Type) (α : Type) :=
  EStateM Failure (State σ) α

namespace State

/-- The state of an engine that was not used yet. -/
def initial
    {σ : Type}
    (channel : σ) :
    State σ where
  tape := none
  pointer := 0
  pc := 0
  steps := 0
  channel := channel
  notices := #[]

/-- The state in which a machine is left between two steps. -/
def ofMachine
    {σ : Type}
    (machine : Machine)
    (channel : σ)
    (notices : Array Notice) :
    State σ where
  tape := some machine.tape
  pointer := machine.pointer
  pc := machine.pc
  steps := machine.steps
  channel := channel
  notices := notices

/-- The state after an execution, whose tape is given up. -/
def ofExecution
    {σ : Type}
    (execution : Execution σ)
    (notices : Array Notice) :
    State σ where
  tape := none
  pointer := execution.machine.pointer
  pc := execution.machine.pc
  steps := execution.machine.steps
  channel := execution.channel
  notices := notices ++ execution.notices ++ #[.tapeReleased execution.machine.tape.size]

end State

variable {σ : Type}

/-- Rewinds to the first address on a fresh tape. -/
def start (engine : Engine) : Action σ Unit := fun state =>
  match engine.host.newTape? engine.tapeSize with
  | none => .error (.tapeTooLarge engine.tapeSize) state
  | some tape => .ok () (.ofMachine (.start tape) state.channel state.notices)

/-- A copy of the tape and the registers; without a tape there is none. -/
def snapshot : Action σ Machine := fun state =>
  match state with
  | ⟨some tape, pointer, pc, steps, _, _⟩ => .ok ⟨tape, pointer, pc, steps⟩ state
  | ⟨none, _, _, _, _, _⟩ => .error .noTape state

/-- One step of a machine; the answer tells whether the program goes on. -/
def stepFrom
    (engine : Engine)
    (console : Console σ)
    (machine : Machine)
    (channel : σ)
    (notices : Array Notice) :
    EStateM.Result Failure (State σ) Bool :=
  if machine.isPast engine.program then
    .ok false (.ofMachine machine channel notices)
  else
    match machine.step console engine.program engine.table channel with
    | ⟨some failure, next, nextChannel⟩ => .error failure (.ofMachine next nextChannel notices)
    | ⟨none, next, nextChannel⟩ =>
        .ok (!next.isPast engine.program) (.ofMachine next nextChannel notices)

/-- One step, on a fresh tape if there is none. -/
def step
    (engine : Engine)
    (console : Console σ) :
    Action σ Bool := fun state =>
  match state with
  | ⟨some tape, pointer, pc, steps, channel, notices⟩ =>
      engine.stepFrom console ⟨tape, pointer, pc, steps⟩ channel notices
  | ⟨none, pointer, pc, steps, channel, notices⟩ =>
      match engine.host.newTape? engine.tapeSize with
      | none =>
          .error (.tapeTooLarge engine.tapeSize) ⟨none, pointer, pc, steps, channel, notices⟩
      | some tape => engine.stepFrom console (.start tape) channel notices

/-- Executes the program on a machine as the settings ask. -/
def execute
    (engine : Engine)
    (console : Console σ)
    (fuel : Nat)
    (machine : Machine)
    (channel : σ) :
    Execution σ :=
  if engine.batched then
    machine.runBatches console engine.program engine.table engine.batchSteps fuel channel #[]
  else
    machine.runSteps console engine.program engine.table fuel channel

/--
Runs the program on a fresh tape, which is given up in the end.  The answer is
the last state of the machine, or nothing if the fuel did not last.
-/
def run
    (engine : Engine)
    (console : Console σ)
    (fuel : Nat) :
    Action σ (Option Machine) := fun state =>
  match engine.host.newTape? engine.tapeSize with
  | none => .error (.tapeTooLarge engine.tapeSize) state
  | some tape =>
      let execution := engine.execute console fuel (.start tape) state.channel
      let left := State.ofExecution execution state.notices
      match execution.ending with
      | .finished => .ok (some execution.machine) left
      | .failed failure => .error failure left
      | .unfinished => .ok none left

end Engine

end Brainfuck
