namespace Brainfuck

/-!
# Memory

Whether a number of cells can be had at once.  It is the host that grants tapes,
and buffers for the reads of files, or does not; it cannot even be asked for a
number that is no size.  Loading a program takes no more room than its source,
which is granted without further question.
-/

/-- Numbers from this one on are no sizes. -/
def sizeLimit : Nat :=
  9223372036854775808

/-- Whether the host can be asked for a number of cells. -/
def isSize (cells : Nat) : Bool :=
  cells < sizeLimit

/-- Whether a number, which may be negative, has no more bits than a size. -/
def isIndex (number : Int) : Bool :=
  -(sizeLimit : Int) ≤ number && number < sizeLimit

/-- Numbers from this one on are no lengths of byte strings, which take some room themselves. -/
def bytesLimit : Nat :=
  sizeLimit - 33

/-- The number of bytes in a read of a file when nothing else is asked for. -/
def usualRead : Nat :=
  8192

/--
Which tapes a host grants, by their number of cells, and which buffers for the
reads of files, by their number of bytes.  Every host has the usual buffer.
-/
structure Host where
  grantsTape : Nat → Bool
  grantsRead : Nat → Bool
  isSize_of_grantsTape : ∀ {cells : Nat}, grantsTape cells = true → isSize cells = true
  grantsRead_usualRead : grantsRead usualRead = true

namespace Host

/-- A host with room for tapes and for buffers below two limits. -/
def below
    (cells bytes : Nat)
    (sizes : cells ≤ sizeLimit)
    (usual : usualRead < bytes) :
    Host where
  grantsTape asked := asked < cells
  grantsRead asked := asked < bytes
  isSize_of_grantsTape granted :=
    decide_eq_true (Nat.lt_of_lt_of_le (of_decide_eq_true granted) sizes)
  grantsRead_usualRead := decide_eq_true usual

/-- A host as large as they come. -/
def large : Host :=
  below 1152921504606846976 34359738368 (by decide) (by decide)

end Host

/-- Grants every number of cells. -/
def alwaysGranted (_ : Nat) : Bool :=
  true

end Brainfuck
