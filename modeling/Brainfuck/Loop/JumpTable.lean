import Brainfuck.Program

namespace Brainfuck

/-!
# Jump tables

A jump table sends the address of a bracket to that of its partner.  It is
stored as one target for each address of the program together with a mark for
the addresses that are brackets.  As a mapping it only knows the marked
addresses; the batch loop reads the targets directly.
-/

/-- Targets by address, and marks on the addresses that belong to the mapping. -/
structure JumpTable where
  targets : Array Int
  domain : Array Bool
  deriving Repr, DecidableEq, Inhabited

namespace JumpTable

/-- The table with the given targets, which need 32 bits at most, and marks. -/
def ofNumbers
    (targets : List Int)
    (domain : List Bool) :
    Outcome JumpTable := do
  let words ← targets.mapM Program.wordOfNumber
  return ⟨(words.map Int32.toInt).toArray, domain.toArray⟩

/-- Whether an address belongs to the mapping. -/
def contains
    (table : JumpTable)
    (address : Int) :
    Bool :=
  match address with
  | .ofNat offset => table.domain.getD offset false
  | .negSucc _ => false

/-- The target of an address of the mapping; any other address is a failure. -/
def get
    (table : JumpTable)
    (address : Int) :
    Outcome Int :=
  if table.contains address then
    match table.targets[address.toNat]? with
    | some target => .ok target
    | none => .error (.outsideArray address table.targets.size)
  else
    .error (.noTarget address)

/-- The target of an address of the mapping, or a default for any other address. -/
def getD
    (table : JumpTable)
    (address : Int)
    (default : Int) :
    Outcome Int :=
  if table.contains address then table.get address else .ok default

/-- The target that is stored for an address, marked or not. -/
def targetAt?
    (table : JumpTable)
    (address : Int) :
    Option Int :=
  elementAt? table.targets address

/-- The addresses of the mapping in increasing order. -/
def addresses (table : JumpTable) : List Nat :=
  (List.range table.domain.size).filter fun address => table.domain.getD address false

/-- The number of addresses of the mapping. -/
def size (table : JumpTable) : Nat :=
  table.addresses.length

/-- One entry of the mapping. -/
def entry
    (table : JumpTable)
    (address : Nat) :
    Outcome (Nat × Int) := do
  let target ← table.get address
  return (address, target)

/-- The entries of the mapping in increasing order of address. -/
def entries (table : JumpTable) : Outcome (List (Nat × Int)) :=
  table.addresses.mapM table.entry

/-- The entries that lead forward: each loop as its opening and closing address. -/
def pairs (table : JumpTable) : Outcome (List (Nat × Int)) := do
  let entries ← table.entries
  return entries.filter fun entry => entry.1 < entry.2

/-- The mapping on one line. -/
def summary (table : JumpTable) : Outcome String := do
  let entries ← table.entries
  let shown := entries.map fun entry => s!"{entry.1}: {entry.2}"
  return "JumpTable(\x7b" ++ ", ".intercalate shown ++ "\x7d)"

end JumpTable

end Brainfuck
