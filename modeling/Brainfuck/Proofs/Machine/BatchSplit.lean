import Brainfuck.Proofs.Machine.Batch

namespace Brainfuck.Machine

/-!
# Splitting batches

The reason of a batch tells where it stopped.  A batch that stopped at its limit
may be resumed, and does then what one batch with the sum of both limits does;
a batch that stopped for another reason is not changed by a higher limit.
-/

variable
  {σ : Type}
  {program : Program}
  {table : JumpTable}
  {machine : Machine}

/-- What the reason of a batch tells about the machine that it leaves. -/
inductive Stops
    (program : Program)
    (table : JumpTable) :
    StopReason × Machine → Prop where
  | finished
      {stopped : Machine}
      (past : stopped.isPast program = true) :
      Stops program table (.finished, stopped)
  | limited
      {stopped : Machine}
      (going : stopped.isPast program = false) :
      Stops program table (.stepLimit, stopped)
  | served
      {stopped : Machine}
      (going : stopped.isPast program = false)
      (stop : stopped.tapeStep? program table = none) :
      Stops program table (stopped.stopReason program, stopped)

theorem stopReason_ne_stepLimit
    (program : Program)
    (machine : Machine) :
    machine.stopReason program ≠ .stepLimit := by
  unfold stopReason
  split <;> exact StopReason.noConfusion

theorem runBatch_of_isPast
    (past : machine.isPast program = true)
    (limit : Nat) :
    runBatch program table limit machine = (.finished, machine) := by
  cases limit with
  | zero =>
      simp only [runBatch, past, ↓reduceIte]
  | succ limit =>
      rw [runBatch_succ]
      simp only [past, ↓reduceIte]

theorem stops_runBatch
    (program : Program)
    (table : JumpTable)
    (limit : Nat)
    (machine : Machine) :
    Stops program table (runBatch program table limit machine) := by
  induction limit generalizing machine with
  | zero =>
      cases past : machine.isPast program with
      | true =>
          rw [runBatch_of_isPast past]
          exact .finished past
      | false =>
          simp only [runBatch, past, Bool.false_eq_true, ↓reduceIte]
          exact .limited past
  | succ limit inductionHypothesis =>
      cases past : machine.isPast program with
      | true =>
          rw [runBatch_of_isPast past]
          exact .finished past
      | false =>
          rw [runBatch_succ]
          simp only [past, Bool.false_eq_true, ↓reduceIte]
          cases stepped : machine.tapeStep? program table with
          | none =>
              exact .served past stepped
          | some next =>
              exact inductionHypothesis next

/-- A higher limit resumes a batch that stopped at its limit, and changes no other. -/
theorem runBatch_add
    (program : Program)
    (table : JumpTable)
    (limit more : Nat)
    (machine : Machine) :
    runBatch program table (limit + more) machine =
      match runBatch program table limit machine with
      | (.stepLimit, stopped) => runBatch program table more stopped
      | result => result := by
  induction limit generalizing machine with
  | zero =>
      rw [Nat.zero_add]
      cases past : machine.isPast program with
      | true =>
          rw [runBatch_of_isPast past, runBatch_of_isPast past]
      | false =>
          simp only [runBatch, past, Bool.false_eq_true, ↓reduceIte]
  | succ limit inductionHypothesis =>
      rw [Nat.succ_add, runBatch_succ, runBatch_succ]
      cases past : machine.isPast program with
      | true =>
          rfl
      | false =>
          simp only [Bool.false_eq_true, ↓reduceIte]
          cases machine.tapeStep? program table with
          | none =>
              simp only
              split
              · next same =>
                  exact absurd (congrArg Prod.fst same) (stopReason_ne_stepLimit program machine)
              · rfl
          | some next =>
              exact inductionHypothesis next

/-- A batch that stops in front of a word that needs only the tape has reached its limit. -/
theorem runBatch_eq_stepLimit
    {limit : Nat}
    {stopped next : Machine}
    (going : stopped.isPast program = false)
    (stepped : stopped.tapeStep? program table = some next)
    (batch : (runBatch program table limit machine).2 = stopped) :
    runBatch program table limit machine = (.stepLimit, stopped) := by
  have stops := stops_runBatch program table limit machine
  generalize runBatch program table limit machine = result at batch stops
  cases stops with
  | finished past =>
      subst batch
      rw [past] at going
      cases going
  | limited _ =>
      subst batch
      rfl
  | served _ stop =>
      subst batch
      rw [stop] at stepped
      cases stepped

/-- A batch with room for one more word goes on to the next machine. -/
theorem runBatch_succ_snd
    {limit : Nat}
    {stopped next : Machine}
    (going : stopped.isPast program = false)
    (batch : runBatch program table limit machine = (.stepLimit, stopped))
    (stepped : stopped.tapeStep? program table = some next) :
    (runBatch program table (limit + 1) machine).2 = next := by
  rw [runBatch_add, batch]
  change (runBatch program table (0 + 1) stopped).2 = next
  rw [runBatch_succ]
  simp only [going, Bool.false_eq_true, ↓reduceIte, stepped]
  rfl

/-- A batch with room for more words stops in front of one that needs more than the tape. -/
theorem runBatch_add_of_stop
    {limit : Nat}
    {stopped : Machine}
    (going : stopped.isPast program = false)
    (batch : runBatch program table limit machine = (.stepLimit, stopped))
    (stop : stopped.tapeStep? program table = none)
    (more : Nat) :
    runBatch program table (limit + (more + 1)) machine =
      (stopped.stopReason program, stopped) := by
  rw [runBatch_add, batch]
  change runBatch program table (more + 1) stopped = (stopped.stopReason program, stopped)
  rw [runBatch_succ]
  simp only [going, Bool.false_eq_true, ↓reduceIte, stop]

/-- A batched run that is unfinished goes on with more fuel from where it is. -/
theorem runBatches_add
    {console : Console σ}
    {limit fuel : Nat}
    {channel : σ}
    {notices : Array Notice}
    (unfinished :
      (runBatches console program table limit fuel machine channel notices).ending =
        .unfinished)
    (more : Nat) :
    runBatches console program table limit (fuel + more) machine channel notices =
      runBatches console program table limit more
        (runBatches console program table limit fuel machine channel notices).machine
        (runBatches console program table limit fuel machine channel notices).channel
        (runBatches console program table limit fuel machine channel notices).notices := by
  induction fuel generalizing machine channel notices with
  | zero =>
      rw [Nat.zero_add]
      rfl
  | succ fuel inductionHypothesis =>
      rw [Nat.succ_add]
      rw [runBatches] at unfinished ⊢
      rw [runBatches]
      cases batch : runBatch program table limit machine with
      | mk reason stopped =>
          cases reason with
          | finished | offTape =>
              simp only [batch] at unfinished
              cases unfinished
          | stepLimit =>
              simp only [batch] at unfinished ⊢
              exact inductionHypothesis unfinished
          | output =>
              simp only [batch] at unfinished ⊢
              cases written : console.write stopped.cell channel with
              | mk result next =>
                  cases result with
                  | error cause =>
                      simp only [written] at unfinished
                      cases unfinished
                  | ok _ =>
                      simp only [written] at unfinished ⊢
                      by_cases past : stopped.advance.isPast program = true
                      · simp only [past, ↓reduceIte] at unfinished
                        cases unfinished
                      · simp only [past, Bool.false_eq_true, ↓reduceIte] at unfinished ⊢
                        exact inductionHypothesis unfinished
          | input =>
              simp only [batch] at unfinished ⊢
              cases answered : console.read channel with
              | mk reading next =>
                  cases reading with
                  | failure cause =>
                      simp only [answered] at unfinished
                      cases unfinished
                  | endOfInput =>
                      simp only [answered] at unfinished ⊢
                      by_cases past : stopped.advance.isPast program = true
                      · simp only [past, ↓reduceIte] at unfinished
                        cases unfinished
                      · simp only [past, Bool.false_eq_true, ↓reduceIte] at unfinished ⊢
                        exact inductionHypothesis unfinished
                  | number value =>
                      simp only [answered] at unfinished ⊢
                      by_cases past :
                          (stopped.store (UInt8.ofInt value)).advance.isPast program = true
                      · simp only [past, ↓reduceIte] at unfinished
                        cases unfinished
                      · simp only [past, Bool.false_eq_true, ↓reduceIte] at unfinished ⊢
                        exact inductionHypothesis unfinished

end Brainfuck.Machine
