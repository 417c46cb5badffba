import Brainfuck.Program

namespace Brainfuck

/-!
# Program buffers

A buffer collects commands while source text is read.  Its capacity doubles
whenever a chunk does not fit, and a chunk for which no room can be had leaves
the buffer as it was.  Whether room can be had is up to the caller, who passes
a test on the number of cells.
-/

/-- A growing sequence of commands. -/
structure Buffer where
  contents : Array Opcode
  capacity : Nat
  capacity_pos : 0 < capacity

namespace Buffer

/-- The capacity of a buffer when nothing else is asked for. -/
def defaultCapacity : Int :=
  64

/-- An empty buffer with at least one cell. -/
def create
    (capacity : Int)
    (grants : Nat → Bool) :
    Outcome Buffer :=
  if grants (max 1 capacity.toNat) then
    .ok ⟨#[], max 1 capacity.toNat, by omega⟩
  else
    .error .outOfMemory

/-- The number of commands in a buffer. -/
def size (buffer : Buffer) : Nat :=
  buffer.contents.size

/-- The first of `capacity`, `2 * capacity`, `4 * capacity`, … that is large enough. -/
def doubled
    (capacity : Nat)
    (needed : Nat)
    (capacity_pos : 0 < capacity) :
    Nat :=
  if needed ≤ capacity then capacity
  else doubled (2 * capacity) needed (by omega)
termination_by needed - capacity

/-- Doubling keeps a capacity positive. -/
theorem doubled_pos
    (capacity : Nat)
    (needed : Nat)
    (capacity_pos : 0 < capacity) :
    0 < doubled capacity needed capacity_pos := by
  fun_induction doubled capacity needed capacity_pos with
  | case1 capacity capacity_pos fits => exact capacity_pos
  | case2 capacity capacity_pos fits ih => exact ih

/-- The buffer with room for `needed` commands in all. -/
def reserve
    (buffer : Buffer)
    (needed : Nat)
    (grants : Nat → Bool) :
    Except Failure Buffer :=
  if needed ≤ buffer.capacity then
    .ok buffer
  else
    let capacity := doubled buffer.capacity needed buffer.capacity_pos
    if grants capacity then
      .ok ⟨buffer.contents, capacity, doubled_pos _ _ buffer.capacity_pos⟩
    else
      .error (.bufferTooLarge capacity)

/-- The commands of a chunk of source bytes, in order. -/
def commands (chunk : List UInt8) : List Opcode :=
  chunk.filterMap Opcode.ofByte?

/-- The buffer with the commands of a chunk behind its own, and how many they are. -/
def extend
    (buffer : Buffer)
    (chunk : List UInt8)
    (grants : Nat → Bool) :
    Outcome (Buffer × Nat) :=
  let kept := commands chunk
  if kept.isEmpty then
    .ok (buffer, 0)
  else do
    let roomy ← buffer.reserve (buffer.size + kept.length) grants
    return (⟨roomy.contents ++ kept, roomy.capacity, roomy.capacity_pos⟩, kept.length)

/-- The program that consists of the commands in a buffer. -/
def freeze (buffer : Buffer) : Program :=
  Program.ofOpcodes buffer.contents.toList

end Buffer

end Brainfuck
