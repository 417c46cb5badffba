import Brainfuck.Machine

namespace Brainfuck

/-!
# Paths

A path is a number of steps that succeed one after the other.  A run that has
enough fuel follows every path from its first machine, so that it may be
resumed behind the path.  The fuel of a run does not matter once the run has
come to its end.
-/

namespace Machine

/-- A number of successful steps from one machine and console state to another. -/
inductive Path
    {σ : Type}
    (console : Console σ)
    (program : Program)
    (table : JumpTable) :
    Nat → Machine → σ → Machine → σ → Prop where
  | refl
      (machine : Machine)
      (channel : σ) :
      Path console program table 0 machine channel machine channel
  | step
      {count : Nat}
      {machine next last : Machine}
      {channel nextChannel lastChannel : σ}
      (going : machine.isPast program = false)
      (first : machine.step console program table channel = ⟨none, next, nextChannel⟩)
      (later : Path console program table count next nextChannel last lastChannel) :
      Path console program table (count + 1) machine channel last lastChannel

variable
  {σ : Type}
  {console : Console σ}
  {program : Program}
  {table : JumpTable}
  {machine middle last : Machine}
  {channel middleChannel lastChannel : σ}

namespace Path

theorem append
    {count more : Nat}
    (path : Path console program table count machine channel middle middleChannel)
    (later : Path console program table more middle middleChannel last lastChannel) :
    Path console program table (count + more) machine channel last lastChannel := by
  induction path with
  | refl machine channel =>
      rw [Nat.zero_add]
      exact later
  | step going first _ inductionHypothesis =>
      rw [Nat.succ_add]
      exact .step going first (inductionHypothesis later)

theorem snoc
    {count : Nat}
    (path : Path console program table count machine channel middle middleChannel)
    (going : middle.isPast program = false)
    (final : middle.step console program table middleChannel = ⟨none, last, lastChannel⟩) :
    Path console program table (count + 1) machine channel last lastChannel :=
  path.append (.step going final (.refl last lastChannel))

/-- A run with enough fuel goes on behind a path. -/
theorem runSteps_add
    {count : Nat}
    (path : Path console program table count machine channel last lastChannel)
    (fuel : Nat) :
    machine.runSteps console program table (count + fuel) channel =
      last.runSteps console program table fuel lastChannel := by
  induction path with
  | refl machine channel =>
      rw [Nat.zero_add]
  | step going first _ inductionHypothesis =>
      rw [Nat.succ_add, runSteps]
      simp only [going, Bool.false_eq_true, ↓reduceIte, first]
      exact inductionHypothesis

/-- A run is unfinished as long as its fuel does not lead beyond a path. -/
theorem runSteps_unfinished
    {count fuel : Nat}
    (path : Path console program table count machine channel last lastChannel)
    (within : fuel ≤ count) :
    (machine.runSteps console program table fuel channel).ending = .unfinished := by
  induction path generalizing fuel with
  | refl machine channel =>
      cases Nat.le_zero.mp within
      rfl
  | step going first _ inductionHypothesis =>
      cases fuel with
      | zero =>
          rfl
      | succ fuel =>
          rw [runSteps]
          simp only [going, Bool.false_eq_true, ↓reduceIte, first]
          exact inductionHypothesis (Nat.le_of_succ_le_succ within)

end Path

/-- A run whose fuel does not last has followed a path. -/
theorem path_of_unfinished
    {fuel : Nat}
    (unfinished :
      (machine.runSteps console program table fuel channel).ending = .unfinished) :
    Path console program table fuel machine channel
      (machine.runSteps console program table fuel channel).machine
      (machine.runSteps console program table fuel channel).channel := by
  induction fuel generalizing machine channel with
  | zero =>
      exact .refl machine channel
  | succ fuel inductionHypothesis =>
      rw [runSteps] at unfinished ⊢
      by_cases past : machine.isPast program = true
      · simp [past] at unfinished
      · simp only [past, Bool.false_eq_true, ↓reduceIte] at unfinished ⊢
        rw [Bool.not_eq_true] at past
        cases stepped : machine.step console program table channel with
        | mk failure next nextChannel =>
            cases failure with
            | some failure =>
                simp [stepped] at unfinished
            | none =>
                simp only [stepped] at unfinished ⊢
                exact .step past stepped (inductionHypothesis unfinished)

/-- A path begins with one of each length that is no longer. -/
theorem Path.exists_take
    {count length : Nat}
    (path : Path console program table count machine channel last lastChannel)
    (within : length ≤ count) :
    ∃ middle middleChannel,
      Path console program table length machine channel middle middleChannel :=
  ⟨_, _, path_of_unfinished (path.runSteps_unfinished within)⟩

theorem steps_of_step
    (stepped : machine.step console program table channel = ⟨none, last, lastChannel⟩) :
    last.steps = machine.steps + 1 := by
  have jumped
      (landed : jump table machine channel = ⟨none, last, lastChannel⟩) :
      last.steps = machine.steps + 1 := by
    unfold jump at landed
    split at landed <;> cases landed
    rfl
  unfold step at stepped
  split at stepped
  · cases stepped
  · split at stepped
    · cases stepped
      rfl
    · next opcode _ =>
        unfold execute at stepped
        cases opcode with
        | increment | decrement =>
            cases stepped
            rfl
        | moveRight | moveLeft | output | input =>
            dsimp only at stepped
            split at stepped <;> cases stepped <;> rfl
        | loopOpen =>
            dsimp only at stepped
            split at stepped
            · exact jumped stepped
            · cases stepped
              rfl
        | loopClose =>
            dsimp only at stepped
            split at stepped
            · cases stepped
              rfl
            · exact jumped stepped

/-- A machine counts the steps of its path. -/
theorem Path.steps_eq
    {count : Nat}
    (path : Path console program table count machine channel last lastChannel) :
    last.steps = machine.steps + count := by
  induction path with
  | refl =>
      rfl
  | step _ first _ inductionHypothesis =>
      have one := steps_of_step first
      omega

/-- More fuel does not change a run that has come to its end. -/
theorem runSteps_add_of_ended
    {fuel : Nat}
    (ended :
      (machine.runSteps console program table fuel channel).ending ≠ .unfinished)
    (more : Nat) :
    machine.runSteps console program table (fuel + more) channel =
      machine.runSteps console program table fuel channel := by
  induction fuel generalizing machine channel with
  | zero =>
      exact absurd rfl ended
  | succ fuel inductionHypothesis =>
      rw [Nat.succ_add, runSteps, runSteps]
      rw [runSteps] at ended
      by_cases past : machine.isPast program = true
      · simp only [past, ↓reduceIte]
      · simp only [past, Bool.false_eq_true, ↓reduceIte] at ended ⊢
        cases stepped : machine.step console program table channel with
        | mk failure next nextChannel =>
            cases failure with
            | some failure =>
                rfl
            | none =>
                simp only [stepped] at ended
                exact inductionHypothesis ended

/-- A run has one end. -/
theorem runSteps_eq_of_ended
    {fuel other : Nat}
    (ended :
      (machine.runSteps console program table fuel channel).ending ≠ .unfinished)
    (otherEnded :
      (machine.runSteps console program table other channel).ending ≠ .unfinished) :
    machine.runSteps console program table fuel channel =
      machine.runSteps console program table other channel := by
  rcases Nat.le_total fuel other with within | within
  · obtain ⟨more, rfl⟩ := Nat.exists_eq_add_of_le within
    exact (runSteps_add_of_ended ended more).symm
  · obtain ⟨more, rfl⟩ := Nat.exists_eq_add_of_le within
    exact runSteps_add_of_ended otherEnded more

theorem runSteps_of_isPast
    (past : machine.isPast program = true)
    (fuel : Nat) :
    machine.runSteps console program table (fuel + 1) channel =
      ⟨.finished, machine, channel, #[]⟩ := by
  rw [runSteps]
  simp only [past, ↓reduceIte]

theorem runSteps_of_failure
    {failure : Failure}
    (going : machine.isPast program = false)
    (fails : machine.step console program table channel = ⟨some failure, last, lastChannel⟩)
    (fuel : Nat) :
    machine.runSteps console program table (fuel + 1) channel =
      ⟨.failed failure, last, lastChannel, #[]⟩ := by
  rw [runSteps]
  simp only [going, Bool.false_eq_true, ↓reduceIte, fails]

end Machine

end Brainfuck
