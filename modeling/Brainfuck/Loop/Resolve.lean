import Brainfuck.Loop.JumpTable

namespace Brainfuck

/-!
# Resolving loops

Brackets are matched in one pass over the program with a stack of the open
ones.  The pass stops at the first closing bracket that has no partner; an
opening bracket without partner shows at the end, and the outermost one is
then the culprit.
-/

/-- The brackets matched so far, and the open ones from the innermost outwards. -/
structure Matching where
  pending : List Nat
  targets : Array Int
  domain : Array Bool
  deriving Repr

namespace Matching

/-- No brackets matched: each of `size` addresses is its own target and none is marked. -/
def start (size : Nat) : Matching where
  pending := []
  targets := (Array.range size).map Int.ofNat
  domain := Array.replicate size false

/-- Another open bracket. -/
def push
    (matching : Matching)
    (address : Nat) :
    Matching :=
  { matching with pending := address :: matching.pending }

/-- A pair of brackets that lead to each other, with `outer` still open. -/
def pair
    (matching : Matching)
    (first : Nat)
    (last : Nat)
    (outer : List Nat) :
    Matching where
  pending := outer
  targets := (matching.targets.setIfInBounds first last).setIfInBounds last first
  domain := (matching.domain.setIfInBounds first true).setIfInBounds last true

/--
Matches the brackets of `words`, the first of which is at `address`; the error
is the address of a closing bracket without partner.
-/
def scan :
    List Int32 → Nat → Matching → Except Nat Matching
  | [], _, matching => .ok matching
  | word :: rest, address, matching =>
      match Opcode.ofWord? word with
      | some .loopOpen => scan rest (address + 1) (matching.push address)
      | some .loopClose =>
          match matching.pending with
          | [] => .error address
          | first :: outer => scan rest (address + 1) (matching.pair first address outer)
      | _ => scan rest (address + 1) matching

end Matching

namespace Program

/-- The failure of a program whose brackets do not pair up. -/
def loopFailure
    (program : Program)
    (imbalance : Imbalance)
    (address : Nat) :
    Failure :=
  match program.toSource with
  | .error failure => failure
  | .ok source =>
      .unbalancedLoops
        { imbalance
          opens := program.countOpcode .loopOpen
          closes := program.countOpcode .loopClose
          address
          source }

/-- The jump table of a program; brackets that do not pair up are a failure. -/
def resolveLoops (program : Program) : Outcome JumpTable :=
  match Matching.scan program.words.toList 0 (Matching.start program.size) with
  | .error address => .error (program.loopFailure .missingOpen address)
  | .ok matching =>
      match matching.pending.getLast? with
      | some address => .error (program.loopFailure .missingClose address)
      | none => .ok ⟨matching.targets, matching.domain⟩

end Program

end Brainfuck
