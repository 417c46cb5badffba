import Brainfuck.Console.Trace
import Brainfuck.Proofs.Machine.Path

namespace Brainfuck.Machine

/-!
# Conversations

A step uses the console once at most, so that on a traced console every step
adds one exchange at most to the trace, and the trace of a longer run begins
with that of a shorter one.
-/

variable
  {σ : Type}
  {program : Program}
  {table : JumpTable}
  {machine : Machine}

theorem channel_execute
    (console : Console σ)
    (program : Program)
    (table : JumpTable)
    (opcode : Opcode)
    (machine : Machine)
    (channel : σ) :
    (execute console program table opcode machine channel).channel = channel ∨
      (execute console program table opcode machine channel).channel =
        (console.read channel).2 ∨
      (execute console program table opcode machine channel).channel =
        (console.write machine.cell channel).2 := by
  have jumped : (jump table machine channel).channel = channel := by
    unfold jump
    cases table.get machine.pc <;> rfl
  unfold execute
  cases opcode with
  | moveRight | moveLeft =>
      refine .inl ?_
      dsimp only
      split <;> rfl
  | increment | decrement =>
      exact .inl rfl
  | output =>
      refine .inr (.inr ?_)
      cases written : console.write machine.cell channel with
      | mk result next =>
          cases result <;> rfl
  | input =>
      refine .inr (.inl ?_)
      cases answered : console.read channel with
      | mk reading next =>
          cases reading <;> rfl
  | loopOpen =>
      refine .inl ?_
      dsimp only
      split
      · exact jumped
      · rfl
  | loopClose =>
      refine .inl ?_
      dsimp only
      split
      · rfl
      · exact jumped

/-- A step leaves the console alone, reads from it once, or writes the current cell to it once. -/
theorem channel_step
    (console : Console σ)
    (program : Program)
    (table : JumpTable)
    (machine : Machine)
    (channel : σ) :
    (machine.step console program table channel).channel = channel ∨
      (machine.step console program table channel).channel = (console.read channel).2 ∨
      (machine.step console program table channel).channel =
        (console.write machine.cell channel).2 := by
  unfold step
  split
  · exact .inl rfl
  · split
    · exact .inl rfl
    · exact channel_execute console program table _ machine channel

theorem trace_step
    (console : Console σ)
    (program : Program)
    (table : JumpTable)
    (machine : Machine)
    (channel : σ × List Exchange) :
    channel.2 <+: (machine.step console.traced program table channel).channel.2 := by
  rcases channel_step console.traced program table machine channel with same | read | write
  · exact same.symm ▸ List.prefix_rfl
  · rw [read]
    exact List.prefix_append _ _
  · rw [write]
    exact List.prefix_append _ _

/-- A run on a traced console only adds to the trace. -/
theorem trace_runSteps
    (console : Console σ)
    (program : Program)
    (table : JumpTable)
    (fuel : Nat)
    (machine : Machine)
    (channel : σ × List Exchange) :
    channel.2 <+: (machine.runSteps console.traced program table fuel channel).channel.2 := by
  induction fuel generalizing machine channel with
  | zero =>
      exact List.prefix_rfl
  | succ fuel inductionHypothesis =>
      have added := trace_step console program table machine channel
      rw [runSteps]
      split
      · exact List.prefix_rfl
      · cases stepped : machine.step console.traced program table channel with
        | mk failure next nextChannel =>
            rw [stepped] at added
            cases failure with
            | some failure =>
                exact added
            | none =>
                exact added.trans (inductionHypothesis next nextChannel)

/-- The trace of a run with more fuel begins with the trace of one with less. -/
theorem trace_runSteps_add
    (console : Console σ)
    (fuel more : Nat)
    (channel : σ × List Exchange) :
    (machine.runSteps console.traced program table fuel channel).channel.2 <+:
      (machine.runSteps console.traced program table (fuel + more) channel).channel.2 := by
  by_cases unfinished :
      (machine.runSteps console.traced program table fuel channel).ending = .unfinished
  · rw [(path_of_unfinished unfinished).runSteps_add]
    exact trace_runSteps console program table more _ _
  · have same := runSteps_add_of_ended unfinished more
    exact same.symm ▸ List.prefix_rfl

theorem trace_runSteps_of_ended
    (console : Console σ)
    {fuel : Nat}
    {channel : σ × List Exchange}
    (ended :
      (machine.runSteps console.traced program table fuel channel).ending ≠ .unfinished)
    (other : Nat) :
    (machine.runSteps console.traced program table other channel).channel.2 <+:
      (machine.runSteps console.traced program table fuel channel).channel.2 := by
  have longer := @trace_runSteps_add σ program table machine console other fuel channel
  rw [Nat.add_comm, runSteps_add_of_ended ended] at longer
  exact longer

end Brainfuck.Machine
