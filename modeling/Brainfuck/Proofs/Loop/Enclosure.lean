import Brainfuck.Proofs.Loop.Segment
import Mathlib.Data.Finset.Card
import Mathlib.Data.Finset.Prod

namespace Brainfuck.Program

/-!
# The loops around an address

In a balanced program the depth in front of an address is the number of loops
that are open there: an opening bracket opens one loop more, a closing one closes
the innermost of them.  The loops strictly around a command are those that are
open in front of it or, at a closing bracket, those that stay open behind it.
-/

variable
  {program : Program}
  {first last address : Nat}

instance : Decidable (program.IsLoop first last) :=
  decidable_of_iff
    (program.opcodeAt? first = some .loopOpen ∧ first < last ∧
      program.depth (last + 1) = program.depth first ∧
      ∀ between, between < last → first < between →
        program.depth (between + 1) ≠ program.depth first)
    ⟨fun ⟨opens, ordered, closes, earliest⟩ =>
      ⟨opens, ordered, closes, fun between behind before => earliest between before behind⟩,
    fun loop =>
      ⟨loop.opens, loop.ordered, loop.closes,
        fun between before behind => loop.earliest between behind before⟩⟩

/-- The loops of a program, each by the addresses of its two brackets. -/
def loops (program : Program) : Finset (Nat × Nat) :=
  (Finset.range program.size ×ˢ Finset.range program.size).filter fun loop =>
    program.IsLoop loop.1 loop.2

/-- The loops that have an address strictly between their brackets. -/
def loopsAround
    (program : Program)
    (address : Nat) :
    Finset (Nat × Nat) :=
  program.loops.filter fun loop => loop.1 < address ∧ address < loop.2

/-- The loops that are still open in front of an address. -/
def openLoops
    (program : Program)
    (address : Nat) :
    Finset (Nat × Nat) :=
  program.loops.filter fun loop => loop.1 < address ∧ address ≤ loop.2

@[simp]
theorem mem_loops : (first, last) ∈ program.loops ↔ program.IsLoop first last := by
  simp only [loops, Finset.mem_filter, Finset.mem_product, Finset.mem_range,
    and_iff_right_iff_imp]
  intro loop
  exact ⟨Nat.lt_trans loop.ordered loop.last_lt_size, loop.last_lt_size⟩

@[simp]
theorem mem_loopsAround :
    (first, last) ∈ program.loopsAround address ↔
      program.IsLoop first last ∧ first < address ∧ address < last := by
  simp only [loopsAround, Finset.mem_filter, mem_loops]

@[simp]
theorem mem_openLoops :
    (first, last) ∈ program.openLoops address ↔
      program.IsLoop first last ∧ first < address ∧ address ≤ last := by
  simp only [openLoops, Finset.mem_filter, mem_loops]

/-- No loop begins at a closing bracket. -/
theorem IsLoop.ne_of_closes
    (loop : program.IsLoop first last)
    (closes : program.opcodeAt? address = some .loopClose) :
    first ≠ address := by
  rintro rfl
  rw [loop.opens] at closes
  cases closes

/-- A loop only ends at a closing bracket. -/
theorem IsLoop.ne_of_not_closes
    (loop : program.IsLoop first last)
    (other : program.opcodeAt? address ≠ some .loopClose) :
    last ≠ address := by
  rintro rfl
  exact other loop.closing

/-- A closing bracket ends one loop at most. -/
theorem IsLoop.first_unique
    {other : Nat}
    (loop : program.IsLoop first last)
    (same : program.IsLoop other last) :
    first = other := by
  rcases Nat.lt_trichotomy first other with before | equal | behind
  · rcases loop.disjoint_or_nested same before with apart | inside
    · have ordered := same.ordered
      omega
    · omega
  · exact equal
  · rcases same.disjoint_or_nested loop behind with apart | inside
    · have ordered := loop.ordered
      omega
    · omega

/-! ## What an address does to the open loops -/

theorem openLoops_zero : program.openLoops 0 = ∅ := by
  ext ⟨first, last⟩
  simp

/-- An opening bracket opens its loop. -/
theorem openLoops_succ_of_isLoop (loop : program.IsLoop first last) :
    program.openLoops (first + 1) = insert (first, last) (program.openLoops first) := by
  ext ⟨one, other⟩
  simp only [mem_openLoops, Finset.mem_insert, Prod.mk.injEq]
  constructor
  · rintro ⟨inner, before, behind⟩
    by_cases same : one = first
    · subst same
      exact .inl ⟨rfl, inner.last_unique loop⟩
    · exact .inr ⟨inner, by omega, by omega⟩
  · rintro (⟨rfl, rfl⟩ | ⟨outer, before, behind⟩)
    · exact ⟨loop, Nat.lt_succ_self one, loop.ordered⟩
    · have distinct : other ≠ first := by
        rintro rfl
        have closes := outer.closing
        rw [loop.opens] at closes
        cases closes
      exact ⟨outer, by omega, by omega⟩

/-- A closing bracket closes its loop. -/
theorem openLoops_of_isLoop (loop : program.IsLoop first last) :
    program.openLoops last = insert (first, last) (program.openLoops (last + 1)) := by
  ext ⟨one, other⟩
  simp only [mem_openLoops, Finset.mem_insert, Prod.mk.injEq]
  constructor
  · rintro ⟨inner, before, behind⟩
    by_cases same : other = last
    · subst same
      exact .inl ⟨inner.first_unique loop, rfl⟩
    · exact .inr ⟨inner, by omega, by omega⟩
  · rintro (⟨rfl, rfl⟩ | ⟨outer, before, behind⟩)
    · exact ⟨loop, loop.ordered, Nat.le_refl other⟩
    · have distinct := outer.ne_of_closes loop.closing
      exact ⟨outer, by omega, by omega⟩

/-- A command that is no bracket opens and closes no loop. -/
theorem openLoops_succ_of_not_hasBracket (plain : ¬ program.HasBracket address) :
    program.openLoops (address + 1) = program.openLoops address := by
  ext ⟨one, other⟩
  simp only [mem_openLoops]
  constructor
  · rintro ⟨loop, before, behind⟩
    have distinct : one ≠ address := by
      rintro rfl
      exact plain (.inl loop.opens)
    exact ⟨loop, by omega, by omega⟩
  · rintro ⟨loop, before, behind⟩
    have distinct : other ≠ address := by
      rintro rfl
      exact plain (.inr loop.closing)
    exact ⟨loop, by omega, by omega⟩

/-- The depth in front of an address is the number of loops that are open there. -/
theorem card_openLoops
    (balanced : program.IsBalanced)
    (address : Nat) :
    ((program.openLoops address).card : Int) = program.depth address := by
  obtain ⟨table, resolved⟩ := balanced.exists_resolveLoops
  have matching := (matches_of_resolveLoops resolved).2
  induction address with
  | zero =>
      rw [openLoops_zero, depth_zero]
      rfl
  | succ address inductionHypothesis =>
      by_cases bracket : program.HasBracket address
      · obtain ⟨other, forward | backward⟩ := matching.partner address bracket
        · have fresh : (address, other) ∉ program.openLoops address := by simp
          rw [openLoops_succ_of_isLoop forward, Finset.card_insert_of_notMem fresh,
            depth_succ_of_open forward.opens, ← inductionHypothesis]
          rfl
        · have fresh : (other, address) ∉ program.openLoops (address + 1) := by simp
          rw [openLoops_of_isLoop backward, Finset.card_insert_of_notMem fresh]
            at inductionHypothesis
          rw [depth_succ_of_close backward.closing, ← inductionHypothesis]
          omega
      · rw [openLoops_succ_of_not_hasBracket bracket, depth_succ_of_not_hasBracket bracket,
          inductionHypothesis]

/-! ## The loops around a command -/

theorem loopsAround_of_not_closes (other : program.opcodeAt? address ≠ some .loopClose) :
    program.loopsAround address = program.openLoops address := by
  ext ⟨first, last⟩
  simp only [mem_loopsAround, mem_openLoops]
  constructor
  · rintro ⟨loop, before, behind⟩
    exact ⟨loop, before, Nat.le_of_lt behind⟩
  · rintro ⟨loop, before, behind⟩
    have distinct := loop.ne_of_not_closes other
    exact ⟨loop, before, by omega⟩

theorem loopsAround_of_closes (closes : program.opcodeAt? address = some .loopClose) :
    program.loopsAround address = program.openLoops (address + 1) := by
  ext ⟨first, last⟩
  simp only [mem_loopsAround, mem_openLoops]
  constructor
  · rintro ⟨loop, before, behind⟩
    exact ⟨loop, Nat.lt_succ_of_lt before, behind⟩
  · rintro ⟨loop, before, behind⟩
    have distinct := loop.ne_of_closes closes
    exact ⟨loop, by omega, behind⟩

/-- The two brackets of a loop have the same loops around them. -/
theorem IsLoop.loopsAround_eq (loop : program.IsLoop first last) :
    program.loopsAround first = program.loopsAround last := by
  ext ⟨one, other⟩
  simp only [mem_loopsAround]
  constructor
  · rintro ⟨outer, before, behind⟩
    have ordered := loop.ordered
    have inside := outer.disjoint_or_nested loop before
    exact ⟨outer, by omega, by omega⟩
  · rintro ⟨outer, before, behind⟩
    have ordered := loop.ordered
    have outside : one ≤ first := by
      by_contra later
      have inside := loop.disjoint_or_nested outer (Nat.lt_of_not_le later)
      omega
    have distinct : one ≠ first := by
      rintro rfl
      have same := outer.last_unique loop
      omega
    exact ⟨outer, by omega, by omega⟩

end Brainfuck.Program
