import Brainfuck.Program.Buffer

namespace Brainfuck

/-!
# Program storage

The cells in which a program buffer keeps its words.  Only the first cells are in
use, the others hold whatever they held when they were allocated.  When a chunk
does not fit, more cells are allocated at once and the words in use are copied;
the old cells are given up only then, so that an allocation that is refused
leaves everything as it was.
-/

/-- What an allocation of some number of cells yields: cells of any contents, or nothing. -/
abbrev Allocator :=
  (count : Nat) → Option (Vector Int32 count)

/-- A row of cells, the first of which are in use. -/
structure Storage where
  cells : Array Int32
  length : Nat
  cells_pos : 0 < cells.size
  deriving Repr, DecidableEq

namespace Storage

/-- The number of cells. -/
def capacity (storage : Storage) : Nat :=
  storage.cells.size

/-- A storage has a cell. -/
theorem capacity_pos (storage : Storage) : 0 < storage.capacity :=
  storage.cells_pos

/-- The words in use. -/
def words (storage : Storage) : List Int32 :=
  storage.cells.toList.take storage.length

/-- Cells with some words written into them, the first one at `start`. -/
def overwrite
    (cells : Array Int32)
    (start : Nat) :
    List Int32 → Array Int32
  | [] => cells
  | word :: rest => overwrite (cells.setIfInBounds start word) (start + 1) rest

/-- Writing keeps the number of cells. -/
@[simp]
theorem size_overwrite
    (cells : Array Int32)
    (start : Nat)
    (words : List Int32) :
    (overwrite cells start words).size = cells.size := by
  induction words generalizing cells start with
  | nil => rfl
  | cons word rest ih => rw [overwrite, ih, Array.size_setIfInBounds]

/-- A storage without words in use that has at least one cell. -/
def create
    (capacity : Int)
    (allocate : Allocator) :
    Outcome Storage :=
  match allocate (max 1 capacity.toNat) with
  | none => .error .outOfMemory
  | some cells => .ok ⟨cells.toArray, 0, by rw [Vector.size_toArray]; omega⟩

/-- The storage whose words are copied into other cells. -/
def movedTo
    (storage : Storage)
    {count : Nat}
    (cells : Vector Int32 count)
    (count_pos : 0 < count) :
    Storage where
  cells := overwrite cells.toArray 0 storage.words
  length := storage.length
  cells_pos := by rwa [size_overwrite, Vector.size_toArray]

/-- Makes room for `needed` words in all. -/
def reserve
    (needed : Nat)
    (allocate : Allocator) :
    EStateM Failure Storage Unit := fun storage =>
  if needed ≤ storage.capacity then
    .ok () storage
  else
    let capacity := Buffer.doubled storage.capacity needed storage.capacity_pos
    match allocate capacity with
    | none => .error (.bufferTooLarge capacity) storage
    | some cells => .ok () (storage.movedTo cells (Buffer.doubled_pos _ _ storage.capacity_pos))

/-- The storage with some words behind those in use. -/
def append
    (storage : Storage)
    (words : List Int32) :
    Storage where
  cells := overwrite storage.cells storage.length words
  length := storage.length + words.length
  cells_pos := by rw [size_overwrite]; exact storage.cells_pos

/-- Keeps the commands of a chunk behind the words in use, and tells how many they are. -/
def extend
    (chunk : List UInt8)
    (allocate : Allocator) :
    EStateM Failure Storage Nat := fun storage =>
  let kept := (Buffer.commands chunk).map Opcode.word
  if kept.isEmpty then
    .ok 0 storage
  else
    match reserve (storage.length + kept.length) allocate storage with
    | .error failure left => .error failure left
    | .ok _ roomy => .ok kept.length (roomy.append kept)

/-- The program that consists of the words in use. -/
def freeze (storage : Storage) : Program :=
  ⟨storage.words.toArray⟩

end Storage

end Brainfuck
