import Brainfuck.Failure

namespace Brainfuck.Outcome

/-!
# Outcomes

Computations that may fail are taken apart into the steps that succeed.
-/

variable {α β : Type}

/-- A sequence of two computations succeeds when the first does and then the second. -/
theorem bind_eq_ok
    {ε : Type}
    {first : Except ε α}
    {second : α → Except ε β}
    {result : β}
    (succeeds : first >>= second = .ok result) :
    ∃ value, first = .ok value ∧ second value = .ok result := by
  cases first with
  | error failure =>
      cases succeeds
  | ok value =>
      exact ⟨value, rfl, succeeds⟩

/-- Behind a computation that succeeds, the next one goes on with its result. -/
theorem bind_of_ok
    {first : Outcome α}
    {value : α}
    (succeeds : first = .ok value)
    (second : α → Outcome β) :
    (first >>= second) = second value := by
  rw [succeeds]
  rfl

/-- Behind a computation that fails, nothing is done. -/
theorem bind_of_error
    {first : Outcome α}
    {failure : Failure}
    (fails : first = .error failure)
    (second : α → Outcome β) :
    (first >>= second) = .error failure := by
  rw [fails]
  rfl

theorem mapM_eq_ok
    {items : List α}
    {attempt : α → Outcome β}
    {result : α → β}
    (succeeds : ∀ item ∈ items, attempt item = .ok (result item)) :
    items.mapM attempt = .ok (items.map result) := by
  induction items with
  | nil =>
      rfl
  | cons item rest inductionHypothesis =>
      have head := succeeds item List.mem_cons_self
      have tail := inductionHypothesis fun later member =>
        succeeds later (List.mem_cons_of_mem item member)
      rw [List.mapM_cons, head, tail]
      rfl

end Brainfuck.Outcome
