import Brainfuck.Machine

namespace Brainfuck

/-!
# Batches

A batch executes words that need nothing but the tape, up to a limit.  It stops
in front of input, output and moves off the tape, which are left to its caller,
and it reads jump targets directly.  `Machine.runBatches` runs a program batch
by batch and serves the stops.
-/

/-- Why a batch has stopped. -/
inductive StopReason where
  | output
  | input
  | finished
  | stepLimit
  | offTape
  deriving Repr, DecidableEq

namespace StopReason

/-- The number by which a reason is reported. -/
def number : StopReason → Nat
  | .output => 1
  | .input => 2
  | .finished => 3
  | .stepLimit => 4
  | .offTape => 5

end StopReason

namespace Machine

/-- The machine behind the partner of the current bracket. -/
def leap
    (table : JumpTable)
    (machine : Machine) :
    Machine :=
  machine.behind ((table.targetAt? machine.pc).getD machine.pc)

/-- Executes at most `limit` words and tells why it stopped. -/
def runBatch
    (program : Program)
    (table : JumpTable) :
    Nat → Machine → StopReason × Machine
  | 0, machine => (if machine.isPast program then .finished else .stepLimit, machine)
  | limit + 1, machine =>
      if machine.isPast program then
        (.finished, machine)
      else
        match program.opcodeAt? machine.pc with
        | some .moveRight =>
            if machine.pointer + 1 < machine.tape.size then
              runBatch program table limit (machine.point (machine.pointer + 1)).advance
            else
              (.offTape, machine)
        | some .moveLeft =>
            if machine.pointer = 0 then
              (.offTape, machine)
            else
              runBatch program table limit (machine.point (machine.pointer - 1)).advance
        | some .increment =>
            runBatch program table limit (machine.store (machine.cell + 1)).advance
        | some .decrement =>
            runBatch program table limit (machine.store (machine.cell - 1)).advance
        | some .output => (.output, machine)
        | some .input => (.input, machine)
        | some .loopOpen =>
            if machine.cell = 0 then
              runBatch program table limit (machine.leap table)
            else
              runBatch program table limit machine.advance
        | some .loopClose =>
            if machine.cell = 0 then
              runBatch program table limit machine.advance
            else
              runBatch program table limit (machine.leap table)
        | none => runBatch program table limit machine.advance

/-- The cell that the move at the current address attempts to reach. -/
def attemptedPointer
    (program : Program)
    (machine : Machine) :
    Int :=
  if program.opcodeAt? machine.pc = some .moveRight then machine.pointer + 1
  else machine.pointer - 1

/-- Executes batch after batch until the program ends, a stop fails or the fuel is used up. -/
def runBatches
    {σ : Type}
    (console : Console σ)
    (program : Program)
    (table : JumpTable)
    (limit : Nat) :
    Nat → Machine → σ → Array Notice → Execution σ
  | 0, machine, channel, notices => ⟨.unfinished, machine, channel, notices⟩
  | fuel + 1, machine, channel, notices =>
      match runBatch program table limit machine with
      | (.finished, stopped) => ⟨.finished, stopped, channel, notices⟩
      | (.stepLimit, stopped) =>
          runBatches console program table limit fuel stopped channel
            (notices.push (.batchLimit stopped.pc stopped.steps))
      | (.offTape, stopped) =>
          ⟨.failed (boundsFailure program stopped.pc (attemptedPointer program stopped)
            stopped.tape.size), stopped, channel, notices⟩
      | (.output, stopped) =>
          match console.write stopped.cell channel with
          | (.error cause, next) => ⟨.failed (.outputFailed cause), stopped, next, notices⟩
          | (.ok _, next) =>
              if stopped.advance.isPast program then
                ⟨.finished, stopped.advance, next, notices⟩
              else
                runBatches console program table limit fuel stopped.advance next notices
      | (.input, stopped) =>
          match console.read channel with
          | (.failure cause, next) => ⟨.failed (.inputFailed cause), stopped, next, notices⟩
          | (.endOfInput, next) =>
              if stopped.advance.isPast program then
                ⟨.finished, stopped.advance, next, notices⟩
              else
                runBatches console program table limit fuel stopped.advance next notices
          | (.number value, next) =>
              let filled := (stopped.store (UInt8.ofInt value)).advance
              if filled.isPast program then
                ⟨.finished, filled, next, notices⟩
              else
                runBatches console program table limit fuel filled next notices

end Machine

end Brainfuck
