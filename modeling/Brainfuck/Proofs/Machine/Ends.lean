import Brainfuck.Proofs.Machine.Path
import Mathlib.Tactic.ByContra

namespace Brainfuck

/-!
# How steps end

Taken step by step, a program comes past its last word, or to a word that fails,
or goes on for ever.  Its course is determined: there is one path of each length
at most, and one end at most, which is found again from any place on the way.
-/

namespace Machine

/-- How a program ends after a number of successful steps. -/
inductive Ends
    {σ : Type}
    (console : Console σ)
    (program : Program)
    (table : JumpTable)
    (count : Nat)
    (machine : Machine)
    (channel : σ) :
    Ending → Machine → σ → Prop where
  | finished
      {last : Machine}
      {lastChannel : σ}
      (path : Path console program table count machine channel last lastChannel)
      (past : last.isPast program = true) :
      Ends console program table count machine channel .finished last lastChannel
  | failed
      {stopped last : Machine}
      {stoppedChannel lastChannel : σ}
      {failure : Failure}
      (path : Path console program table count machine channel stopped stoppedChannel)
      (going : stopped.isPast program = false)
      (fails :
        stopped.step console program table stoppedChannel = ⟨some failure, last, lastChannel⟩) :
      Ends console program table count machine channel (.failed failure) last lastChannel

variable
  {σ : Type}
  {console : Console σ}
  {program : Program}
  {table : JumpTable}
  {machine middle last other : Machine}
  {channel middleChannel lastChannel otherChannel : σ}
  {ending otherEnding : Ending}

/-- There is one path of each length. -/
theorem Path.unique
    {count : Nat}
    (path : Path console program table count machine channel last lastChannel)
    (same : Path console program table count machine channel other otherChannel) :
    last = other ∧ lastChannel = otherChannel := by
  have one := path.runSteps_add 0
  have two := same.runSteps_add 0
  rw [one] at two
  cases two
  exact ⟨rfl, rfl⟩

/-- A longer path goes on where a shorter one ends. -/
theorem Path.behind
    {count more : Nat}
    (path : Path console program table count machine channel middle middleChannel)
    (longer : Path console program table (count + more) machine channel last lastChannel) :
    Path console program table more middle middleChannel last lastChannel := by
  induction path with
  | refl machine channel =>
      rw [Nat.zero_add] at longer
      exact longer
  | step going first later inductionHypothesis =>
      rw [Nat.succ_add] at longer
      cases longer with
      | step _ sameFirst sameLater =>
          rw [first] at sameFirst
          cases sameFirst
          exact inductionHypothesis sameLater

namespace Ends

/-- A run whose fuel leads beyond the end of a program stops there. -/
theorem runSteps_eq
    {count : Nat}
    (ends : Ends console program table count machine channel ending last lastChannel)
    (more : Nat) :
    machine.runSteps console program table (count + (more + 1)) channel =
      ⟨ending, last, lastChannel, #[]⟩ := by
  cases ends with
  | finished path past =>
      rw [path.runSteps_add, runSteps_of_isPast past]
  | failed path going fails =>
      rw [path.runSteps_add, runSteps_of_failure going fails]

theorem ne_unfinished
    {count : Nat}
    (ends : Ends console program table count machine channel ending last lastChannel) :
    ending ≠ .unfinished := by
  cases ends <;> exact Ending.noConfusion

/-- No path leads beyond the end of a program. -/
theorem path_le
    {count length : Nat}
    (ends : Ends console program table count machine channel ending last lastChannel)
    (path : Path console program table length machine channel middle middleChannel) :
    length ≤ count := by
  by_contra beyond
  obtain ⟨more, rfl⟩ := Nat.exists_eq_add_of_lt (Nat.lt_of_not_le beyond)
  have unfinished := path.runSteps_unfinished (Nat.le_refl _)
  rw [Nat.add_assoc, ends.runSteps_eq more] at unfinished
  exact ends.ne_unfinished unfinished

/-- A program has one end. -/
theorem unique
    {count length : Nat}
    (ends : Ends console program table count machine channel ending last lastChannel)
    (same : Ends console program table length machine channel otherEnding other otherChannel) :
    ending = otherEnding ∧ last = other ∧ lastChannel = otherChannel := by
  have one := ends.runSteps_eq length
  have two := same.runSteps_eq count
  rw [show length + (count + 1) = count + (length + 1) by omega, one] at two
  cases two
  exact ⟨rfl, rfl, rfl⟩

/-- The end of a program is also its end from any place that a path leads to. -/
theorem behind
    {count length : Nat}
    (ends : Ends console program table count machine channel ending last lastChannel)
    (path : Path console program table length machine channel middle middleChannel) :
    Ends console program table (count - length) middle middleChannel ending last
      lastChannel := by
  obtain ⟨more, rfl⟩ := Nat.exists_eq_add_of_le (ends.path_le path)
  rw [Nat.add_sub_cancel_left]
  cases ends with
  | finished longer past =>
      exact .finished (path.behind longer) past
  | failed longer going fails =>
      exact .failed (path.behind longer) going fails

end Ends

/-- The end of a program from a place on the way is its end from the beginning. -/
theorem Path.ends
    {count length : Nat}
    (path : Path console program table length machine channel middle middleChannel)
    (ends : Ends console program table count middle middleChannel ending last lastChannel) :
    Ends console program table (length + count) machine channel ending last lastChannel := by
  cases ends with
  | finished later past =>
      exact .finished (path.append later) past
  | failed later going fails =>
      exact .failed (path.append later) going fails

/-- A run whose fuel lasts has come to the end of the program. -/
theorem exists_ends_of_ended
    {fuel : Nat}
    (ended :
      (machine.runSteps console program table fuel channel).ending ≠ .unfinished) :
    ∃ count, Ends console program table count machine channel
      (machine.runSteps console program table fuel channel).ending
      (machine.runSteps console program table fuel channel).machine
      (machine.runSteps console program table fuel channel).channel := by
  induction fuel generalizing machine channel with
  | zero =>
      exact absurd rfl ended
  | succ fuel inductionHypothesis =>
      rw [runSteps] at ended ⊢
      by_cases past : machine.isPast program = true
      · simp only [past, ↓reduceIte]
        exact ⟨0, .finished (.refl machine channel) past⟩
      · simp only [past, Bool.false_eq_true, ↓reduceIte] at ended ⊢
        rw [Bool.not_eq_true] at past
        cases stepped : machine.step console program table channel with
        | mk failure next nextChannel =>
            cases failure with
            | some failure =>
                exact ⟨0, .failed (.refl machine channel) past stepped⟩
            | none =>
                simp only [stepped] at ended
                obtain ⟨count, ends⟩ := inductionHypothesis ended
                have first : Path console program table 1 machine channel next nextChannel :=
                  .step past stepped (.refl next nextChannel)
                exact ⟨1 + count, first.ends ends⟩

/-- A run that does not fail has followed a path. -/
theorem exists_path_of_sound
    {fuel : Nat}
    (sound : ∀ failure,
      (machine.runSteps console program table fuel channel).ending ≠ .failed failure) :
    ∃ count, Path console program table count machine channel
      (machine.runSteps console program table fuel channel).machine
      (machine.runSteps console program table fuel channel).channel := by
  by_cases unfinished :
      (machine.runSteps console program table fuel channel).ending = .unfinished
  · exact ⟨fuel, path_of_unfinished unfinished⟩
  · obtain ⟨count, ends⟩ := exists_ends_of_ended unfinished
    generalize machine.runSteps console program table fuel channel = execution at ends sound ⊢
    cases execution with
    | mk ending last lastChannel notices =>
        cases ends with
        | finished path _ =>
            exact ⟨count, path⟩
        | failed =>
            exact absurd rfl (sound _)

/-- A program ends, or there are paths of every length. -/
theorem exists_ends_or_path
    (console : Console σ)
    (program : Program)
    (table : JumpTable)
    (machine : Machine)
    (channel : σ) :
    (∃ count ending last lastChannel,
      Ends console program table count machine channel ending last lastChannel) ∨
      ∀ count, ∃ last lastChannel,
        Path console program table count machine channel last lastChannel := by
  by_cases ended :
      ∃ fuel, (machine.runSteps console program table fuel channel).ending ≠ .unfinished
  · obtain ⟨fuel, ended⟩ := ended
    obtain ⟨count, ends⟩ := exists_ends_of_ended ended
    exact .inl ⟨count, _, _, _, ends⟩
  · right
    intro count
    have unfinished :
        (machine.runSteps console program table count channel).ending = .unfinished := by
      by_contra unequal
      exact ended ⟨count, unequal⟩
    exact ⟨_, _, path_of_unfinished unfinished⟩

end Machine

end Brainfuck
