import Brainfuck.Proofs.Machine.Batch

namespace Brainfuck

/-!
# Batched runs

A run in batches and a run step by step come to the same end.  Each round of a
batched run is a path, so that its state is one that single steps reach as well;
and each round takes a step at least, so that a run step by step is never ahead
for good.
-/

namespace Execution

/-- Whether two executions differ in their notices at most. -/
structure Agrees
    {σ : Type}
    (one other : Execution σ) :
    Prop where
  ending : one.ending = other.ending
  machine : one.machine = other.machine
  channel : one.channel = other.channel

namespace Agrees

variable
  {σ : Type}
  {one other third : Execution σ}

theorem refl (one : Execution σ) : one.Agrees one :=
  ⟨rfl, rfl, rfl⟩

theorem symm (agrees : one.Agrees other) : other.Agrees one :=
  ⟨agrees.ending.symm, agrees.machine.symm, agrees.channel.symm⟩

theorem trans
    (agrees : one.Agrees other)
    (further : other.Agrees third) :
    one.Agrees third :=
  ⟨agrees.ending.trans further.ending, agrees.machine.trans further.machine,
    agrees.channel.trans further.channel⟩

end Agrees

end Execution

namespace Machine

variable
  {σ : Type}
  {console : Console σ}
  {program : Program}
  {table : JumpTable}
  {machine : Machine}
  {channel : σ}

/-- The state of a batched run is one that is reached step by step. -/
theorem exists_runSteps_agrees
    {limit : Nat}
    (serves : table.Serves program)
    (standing : 0 ≤ machine.pc)
    (positive : 0 < limit)
    (fuel : Nat)
    (notices : Array Notice) :
    ∃ count,
      (runBatches console program table limit fuel machine channel notices).Agrees
          (machine.runSteps console program table count channel) ∧
        ((runBatches console program table limit fuel machine channel notices).ending =
            .unfinished →
          fuel ≤ count) := by
  induction fuel generalizing machine channel notices with
  | zero =>
      exact ⟨0, ⟨rfl, rfl, rfl⟩, fun _ => Nat.le_refl 0⟩
  | succ fuel inductionHypothesis =>
      obtain ⟨count, stopped, path, stoppedStanding, finished | limited | served⟩ :=
        runBatch_cases serves standing console channel limit
      · obtain ⟨past, batch⟩ := finished
        refine ⟨count + 1, ?_, ?_⟩
        · rw [runBatches, batch, path.runSteps_add, runSteps_of_isPast past]
          exact ⟨rfl, rfl, rfl⟩
        · rw [runBatches, batch]
          intro unfinished
          cases unfinished
      · obtain ⟨_, rfl, batch⟩ := limited
        rw [runBatches, batch]
        obtain ⟨more, agrees, ahead⟩ := inductionHypothesis stoppedStanding
          (notices.push (.batchLimit stopped.pc stopped.steps))
        refine ⟨count + more, ?_, ?_⟩
        · rw [path.runSteps_add]
          exact agrees
        · intro unfinished
          have before := ahead unfinished
          omega
      · obtain ⟨going, stop, batch⟩ := served
        rw [runBatches_of_stop stoppedStanding going stop batch]
        cases stepped : stopped.step console program table channel with
        | mk failure next nextChannel =>
            cases failure with
            | some failure =>
                refine ⟨count + 1, ?_, ?_⟩
                · rw [path.runSteps_add, runSteps_of_failure going stepped]
                  exact ⟨rfl, rfl, rfl⟩
                · intro unfinished
                  cases unfinished
            | none =>
                have longer := path.snoc going stepped
                by_cases past : next.isPast program = true
                · refine ⟨count + 1 + 1, ?_, ?_⟩
                  · rw [longer.runSteps_add, runSteps_of_isPast past]
                    simp only [past, ↓reduceIte]
                    exact ⟨rfl, rfl, rfl⟩
                  · simp only [past, ↓reduceIte]
                    intro unfinished
                    cases unfinished
                · simp only [past, Bool.false_eq_true, ↓reduceIte]
                  have address := pc_of_stop stoppedStanding going stop stepped
                  obtain ⟨more, agrees, ahead⟩ := inductionHypothesis
                    (by omega : 0 ≤ next.pc) notices
                  refine ⟨count + 1 + more, ?_, ?_⟩
                  · rw [longer.runSteps_add]
                    exact agrees
                  · intro unfinished
                    have before := ahead unfinished
                    omega

/-- An execution is the end of a batched run exactly when it is that of a run by steps. -/
theorem runBatches_ended_iff
    {limit : Nat}
    (serves : table.Serves program)
    (standing : 0 ≤ machine.pc)
    (positive : 0 < limit)
    {execution : Execution σ}
    (ended : execution.ending ≠ .unfinished) :
    (∃ fuel,
      (runBatches console program table limit fuel machine channel #[]).Agrees execution) ↔
      ∃ fuel, (machine.runSteps console program table fuel channel).Agrees execution := by
  constructor
  · rintro ⟨fuel, ends⟩
    obtain ⟨count, agrees, _⟩ :=
      exists_runSteps_agrees serves standing positive fuel #[]
    exact ⟨count, agrees.symm.trans ends⟩
  · rintro ⟨fuel, ends⟩
    obtain ⟨count, agrees, ahead⟩ :=
      exists_runSteps_agrees serves standing positive fuel #[]
    have stepsEnded :
        (machine.runSteps console program table fuel channel).ending ≠ .unfinished := by
      rw [ends.ending]
      exact ended
    -- Were the batches unfinished, the steps would be ahead of a run that has ended.
    have batchesEnded :
        (machine.runSteps console program table count channel).ending ≠ .unfinished := by
      rw [← agrees.ending]
      intro unfinished
      obtain ⟨more, rfl⟩ := Nat.exists_eq_add_of_le (ahead unfinished)
      rw [agrees.ending, runSteps_add_of_ended stepsEnded] at unfinished
      exact stepsEnded unfinished
    refine ⟨fuel, agrees.trans ?_⟩
    rw [runSteps_eq_of_ended batchesEnded stepsEnded]
    exact ends

end Machine

end Brainfuck
