import Brainfuck.Machine.Batch

namespace Brainfuck

/-!
# Checked execution

A step and a batch that look up every index before they use it and give no
answer where one is outside its array.  They say which indexes are used: that of
the word, that of the current cell where the cell is read or written, and that
of the target, and for a step of its mark, where a jump is taken.
-/

/-- The element at an index of an array; no index counts from the end. -/
def elementInside?
    {α : Type}
    (sequence : Array α)
    (index : Int) :
    Option α :=
  match index with
  | .ofNat offset => sequence[offset]?
  | .negSucc _ => none

namespace Machine

/-- The value of the current cell, if there is one. -/
def checkedCell (machine : Machine) : Option UInt8 :=
  machine.tape[machine.pointer]?

/-- The machine with a new value in the current cell, if there is one. -/
def checkedStore
    (machine : Machine)
    (value : UInt8) :
    Option Machine :=
  if machine.pointer < machine.tape.size then some (machine.store value) else none

/-- The machine behind the target of the current address, if the table has that address. -/
def checkedLeap
    (table : JumpTable)
    (machine : Machine) :
    Option Machine :=
  (elementInside? table.targets machine.pc).map machine.behind

/-- A batch that checks every index. -/
def checkedBatch
    (program : Program)
    (table : JumpTable) :
    Nat → Machine → Option (StopReason × Machine)
  | 0, machine => some (if machine.isPast program then .finished else .stepLimit, machine)
  | limit + 1, machine =>
      if machine.isPast program then
        some (.finished, machine)
      else do
        let word ← elementInside? program.words machine.pc
        match Opcode.ofWord? word with
        | some .moveRight =>
            if machine.pointer + 1 < machine.tape.size then
              checkedBatch program table limit (machine.point (machine.pointer + 1)).advance
            else
              some (.offTape, machine)
        | some .moveLeft =>
            if machine.pointer = 0 then
              some (.offTape, machine)
            else
              checkedBatch program table limit (machine.point (machine.pointer - 1)).advance
        | some .increment =>
            let cell ← machine.checkedCell
            let next ← machine.checkedStore (cell + 1)
            checkedBatch program table limit next.advance
        | some .decrement =>
            let cell ← machine.checkedCell
            let next ← machine.checkedStore (cell - 1)
            checkedBatch program table limit next.advance
        | some .output => some (.output, machine)
        | some .input => some (.input, machine)
        | some .loopOpen =>
            let cell ← machine.checkedCell
            let next ← if cell = 0 then machine.checkedLeap table else some machine.advance
            checkedBatch program table limit next
        | some .loopClose =>
            let cell ← machine.checkedCell
            let next ← if cell = 0 then some machine.advance else machine.checkedLeap table
            checkedBatch program table limit next
        | none => checkedBatch program table limit machine.advance

variable {σ : Type}

/-- A jump that checks the index of the mark and that of the target. -/
def checkedJump
    (table : JumpTable)
    (machine : Machine)
    (channel : σ) :
    Option (Transition σ) := do
  let marked ← elementInside? table.domain machine.pc
  if marked then
    let next ← machine.checkedLeap table
    return proceed next channel
  else
    return refuse machine channel (.noTarget machine.pc)

/-- A step that checks every index. -/
def checkedStep
    (console : Console σ)
    (program : Program)
    (table : JumpTable)
    (machine : Machine)
    (channel : σ) :
    Option (Transition σ) := do
  let word ← elementInside? program.words machine.pc
  match Opcode.ofWord? word with
  | some .moveRight =>
      if machine.pointer + 1 < machine.tape.size then
        return proceed (machine.point (machine.pointer + 1)).advance channel
      else
        return refuse machine channel
          (boundsFailure program machine.pc (machine.pointer + 1) machine.tape.size)
  | some .moveLeft =>
      if machine.pointer = 0 then
        return refuse machine channel (boundsFailure program machine.pc (-1) machine.tape.size)
      else
        return proceed (machine.point (machine.pointer - 1)).advance channel
  | some .increment =>
      let cell ← machine.checkedCell
      let next ← machine.checkedStore (cell + 1)
      return proceed next.advance channel
  | some .decrement =>
      let cell ← machine.checkedCell
      let next ← machine.checkedStore (cell - 1)
      return proceed next.advance channel
  | some .output =>
      let cell ← machine.checkedCell
      match console.write cell channel with
      | (.ok _, next) => return proceed machine.advance next
      | (.error cause, next) => return refuse machine next (.outputFailed cause)
  | some .input =>
      match console.read channel with
      | (.number value, next) =>
          let filled ← machine.checkedStore (UInt8.ofInt value)
          return proceed filled.advance next
      | (.endOfInput, next) => return proceed machine.advance next
      | (.failure cause, next) => return refuse machine next (.inputFailed cause)
  | some .loopOpen =>
      let cell ← machine.checkedCell
      if cell = 0 then checkedJump table machine channel
      else return proceed machine.advance channel
  | some .loopClose =>
      let cell ← machine.checkedCell
      if cell = 0 then return proceed machine.advance channel
      else checkedJump table machine channel
  | none => return proceed machine.advance channel

end Machine

end Brainfuck
