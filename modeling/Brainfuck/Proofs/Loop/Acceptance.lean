import Brainfuck.Proofs.Loop.Table
import Brainfuck.Proofs.Program.Loaded

namespace Brainfuck.Program

/-!
# Which programs are accepted

The loops of a program can be resolved exactly when its brackets are balanced.
Otherwise the first closing bracket without partner is reported, if there is
one, and the outermost opening bracket left open if there is none.
-/

variable {program : Program}

/-- How many of the first `count` words stand for a command. -/
def countBefore
    (program : Program)
    (opcode : Opcode)
    (count : Nat) :
    Nat :=
  (program.words.toList.take count).count opcode.word

theorem depth_eq_countBefore (count : Nat) :
    program.depth count =
      (program.countBefore .loopOpen count : Int) - program.countBefore .loopClose count :=
  nesting_eq_count_sub_count _

theorem loopFailure_eq
    {source : String}
    (shown : program.toSource = .ok source)
    (imbalance : Imbalance)
    (address : Nat) :
    program.loopFailure imbalance address =
      .unbalancedLoops
        { imbalance
          opens := program.countOpcode .loopOpen
          closes := program.countOpcode .loopClose
          address
          source } := by
  simp only [loopFailure, shown]

theorem IsStrayClose.not_isBalanced
    {address : Nat}
    (stray : program.IsStrayClose address) :
    ¬ program.IsBalanced := by
  intro balanced
  have above := balanced.nonnegative (address + 1) stray.inside
  have below := stray.negative
  omega

/-- The outermost bracket that is left open stays open, and is the first to do so. -/
theorem staysOpen_of_pending
    {final : Matching}
    {address : Nat}
    (tracks : Matching.Tracks program program.size final)
    (outermost : final.pending.getLast? = some address) :
    program.StaysOpen address ∧
      ∀ other, program.StaysOpen other → address ≤ other := by
  obtain ⟨opens, inside, level, deep⟩ := tracks.stack.outermost outermost
  refine ⟨⟨opens, deep⟩, ?_⟩
  intro other stays
  by_contra before
  have positive := stays.deep address (Nat.lt_of_not_le before) (Nat.le_of_lt inside)
  omega

/--
How the brackets of a program decide whether its loops can be resolved, and which
failure is reported otherwise.
-/
structure LoopVerdict
    (program : Program)
    (source : String) :
    Prop where
  /-- The depth counts opening brackets against closing ones. -/
  depth : ∀ count, program.depth count =
    (program.countBefore .loopOpen count : Int) - program.countBefore .loopClose count
  /-- Loops are resolved exactly when brackets are balanced. -/
  accepted : (∃ table, program.resolveLoops = .ok table) ↔ program.IsBalanced
  /-- The first stray closing bracket is reported, whatever else is wrong. -/
  missingOpen : (∃ count, count ≤ program.size ∧ program.depth count < 0) →
    ∃ address, program.IsStrayClose address ∧
      program.resolveLoops =
        .error (.unbalancedLoops
          { imbalance := .missingOpen
            opens := program.countOpcode .loopOpen
            closes := program.countOpcode .loopClose
            address
            source })
  /-- Without stray closing brackets, the first opening one that stays open is reported. -/
  missingClose : (∀ count, count ≤ program.size → 0 ≤ program.depth count) →
    program.depth program.size ≠ 0 →
    ∃ address, program.StaysOpen address ∧
      (∀ other, program.StaysOpen other → address ≤ other) ∧
      program.resolveLoops =
        .error (.unbalancedLoops
          { imbalance := .missingClose
            opens := program.countOpcode .loopOpen
            closes := program.countOpcode .loopClose
            address
            source })

end Brainfuck.Program
