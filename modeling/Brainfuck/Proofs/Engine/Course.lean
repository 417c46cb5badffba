import Brainfuck.Proofs.Engine.Conclusion
import Brainfuck.Proofs.Machine.BatchSplit
import Brainfuck.Proofs.Machine.Ends
import Brainfuck.Proofs.Machine.Fits

namespace Brainfuck

/-!
# The course of an execution

An engine comes through the same machines in the same order, whether it works
step by step or in batches: those to which a path of single steps leads.  Its
executions and its runs end as single steps do.
-/

namespace Engine

variable {σ : Type}

/--
Whether an execution comes through a machine and a state of the console: between
two rounds, at its end, or, if it works in batches, between two words of a batch.
-/
inductive Passes
    (engine : Engine)
    (console : Console σ)
    (origin : Machine)
    (originChannel : σ) :
    Machine → σ → Prop where
  | between
      (fuel : Nat)
      (sound : ∀ failure,
        (engine.execute console fuel origin originChannel).ending ≠ .failed failure) :
      Passes engine console origin originChannel
        (engine.execute console fuel origin originChannel).machine
        (engine.execute console fuel origin originChannel).channel
  | inside
      (fuel count : Nat)
      (batched : engine.batched = true)
      (within : count ≤ engine.batchSteps)
      (unfinished :
        (engine.execute console fuel origin originChannel).ending = .unfinished) :
      Passes engine console origin originChannel
        (Machine.runBatch engine.program engine.table count
          (engine.execute console fuel origin originChannel).machine).2
        (engine.execute console fuel origin originChannel).channel

/-- Whether an execution with enough fuel ends as given. -/
def Executes
    (engine : Engine)
    (console : Console σ)
    (origin : Machine)
    (originChannel : σ)
    (ending : Ending)
    (last : Machine)
    (lastChannel : σ) :
    Prop :=
  ending ≠ .unfinished ∧
    ∃ fuel, (engine.execute console fuel origin originChannel).Agrees
      ⟨ending, last, lastChannel, #[]⟩

/-- Whether an execution goes on for ever. -/
def Diverges
    (engine : Engine)
    (console : Console σ)
    (origin : Machine)
    (originChannel : σ) :
    Prop :=
  ∀ ending last lastChannel,
    ¬ engine.Executes console origin originChannel ending last lastChannel

variable
  {engine : Engine}
  {console : Console σ}
  {origin machine next last : Machine}
  {originChannel channel nextChannel lastChannel : σ}
  {ending : Ending}

theorem exists_executes_or_diverges
    (engine : Engine)
    (console : Console σ)
    (origin : Machine)
    (originChannel : σ) :
    (∃ ending last lastChannel,
      engine.Executes console origin originChannel ending last lastChannel) ∨
      engine.Diverges console origin originChannel := by
  by_cases ends : ∃ ending last lastChannel,
    engine.Executes console origin originChannel ending last lastChannel
  · exact .inl ends
  · right
    intro ending last lastChannel executes
    exact ends ⟨ending, last, lastChannel, executes⟩

theorem Passes.of_execute_eq
    {fuel : Nat}
    {notices : Array Notice}
    (executed :
      engine.execute console fuel origin originChannel = ⟨ending, machine, channel, notices⟩)
    (sound : ∀ failure, ending ≠ .failed failure) :
    engine.Passes console origin originChannel machine channel := by
  have passes :
      engine.Passes console origin originChannel
        (engine.execute console fuel origin originChannel).machine
        (engine.execute console fuel origin originChannel).channel :=
    .between fuel (by rw [executed]; exact sound)
  rw [executed] at passes
  exact passes

section

variable
  (positive : 0 < engine.batchSteps)
  (serves : engine.table.Serves engine.program)
  (standing : 0 ≤ origin.pc)

include positive serves standing

/-- The state of an execution in rounds is the state after some single steps. -/
theorem execute_agrees
    (console : Console σ)
    (fuel : Nat)
    (originChannel : σ) :
    ∃ count,
      (engine.execute console fuel origin originChannel).Agrees
        (origin.runSteps console engine.program engine.table count originChannel) := by
  unfold execute
  split
  · obtain ⟨count, agrees, _⟩ :=
      Machine.exists_runSteps_agrees serves standing positive fuel #[]
    exact ⟨count, agrees⟩
  · exact ⟨fuel, .refl _⟩

/-- In either mode, an execution ends as single steps do. -/
theorem executes_iff_ends :
    engine.Executes console origin originChannel ending last lastChannel ↔
      ∃ count, Machine.Ends console engine.program engine.table count origin originChannel
        ending last lastChannel := by
  constructor
  · rintro ⟨ended, fuel, executes⟩
    obtain ⟨count, agrees⟩ :=
      execute_agrees positive serves standing console fuel originChannel
    have same := agrees.symm.trans executes
    have stepsEnded :
        (origin.runSteps console engine.program engine.table count originChannel).ending ≠
          .unfinished := by
      rw [same.ending]
      exact ended
    obtain ⟨length, ends⟩ := Machine.exists_ends_of_ended stepsEnded
    rw [same.ending, same.machine, same.channel] at ends
    exact ⟨length, ends⟩
  · rintro ⟨count, ends⟩
    have stops := ends.runSteps_eq 0
    refine ⟨ends.ne_unfinished, ?_⟩
    unfold execute
    split
    · exact (Machine.runBatches_ended_iff serves standing positive ends.ne_unfinished).mpr
        ⟨_, by rw [stops]; exact .refl _⟩
    · exact ⟨_, by rw [stops]; exact .refl _⟩

/-- An execution has one end. -/
theorem Executes.unique
    {otherEnding : Ending}
    {other : Machine}
    {otherChannel : σ}
    (executes : engine.Executes console origin originChannel ending last lastChannel)
    (same : engine.Executes console origin originChannel otherEnding other otherChannel) :
    ending = otherEnding ∧ last = other ∧ lastChannel = otherChannel := by
  obtain ⟨count, ends⟩ := (executes_iff_ends positive serves standing).mp executes
  obtain ⟨otherCount, otherEnds⟩ := (executes_iff_ends positive serves standing).mp same
  exact ends.unique otherEnds

theorem Passes.exists_path
    (passes : engine.Passes console origin originChannel machine channel) :
    ∃ count, Machine.Path console engine.program engine.table count origin originChannel
      machine channel := by
  have reached (fuel : Nat)
      (sound : ∀ failure,
        (engine.execute console fuel origin originChannel).ending ≠ .failed failure) :
      ∃ count, Machine.Path console engine.program engine.table count origin originChannel
        (engine.execute console fuel origin originChannel).machine
        (engine.execute console fuel origin originChannel).channel := by
    obtain ⟨count, agrees⟩ :=
      execute_agrees positive serves standing console fuel originChannel
    rw [agrees.machine, agrees.channel]
    rw [agrees.ending] at sound
    exact Machine.exists_path_of_sound sound
  cases passes with
  | between fuel sound =>
      exact reached fuel sound
  | inside fuel count batched within unfinished =>
      obtain ⟨length, path⟩ := reached fuel (by rw [unfinished]; exact fun _ => Ending.noConfusion)
      obtain ⟨more, stopped, later, _, ends⟩ :=
        Machine.runBatch_cases serves (path.standing serves standing) console
          (engine.execute console fuel origin originChannel).channel count
      have batch :
          (Machine.runBatch engine.program engine.table count
            (engine.execute console fuel origin originChannel).machine).2 = stopped := by
        rcases ends with ⟨_, batch⟩ | ⟨_, _, batch⟩ | ⟨_, _, batch⟩ <;> rw [batch]
      rw [batch]
      exact ⟨length + more, path.append later⟩

/-- An execution that comes through a machine in front of a word is unfinished there. -/
theorem Passes.ending_of_going
    {fuel : Nat}
    (sound : ∀ failure,
      (engine.execute console fuel origin originChannel).ending ≠ .failed failure)
    (going :
      (engine.execute console fuel origin originChannel).machine.isPast engine.program =
        false) :
    (engine.execute console fuel origin originChannel).ending = .unfinished := by
  by_contra ended
  obtain ⟨length, ends⟩ := (executes_iff_ends positive serves standing).mp
    ⟨ended, fuel, ⟨rfl, rfl, rfl⟩⟩
  generalize engine.execute console fuel origin originChannel = execution at ends going sound
  cases execution with
  | mk ending last lastChannel notices =>
      cases ends with
      | finished _ past =>
          rw [past] at going
          cases going
      | failed =>
          exact sound _ rfl

/--
Where a batched execution stands in front of a word, its batch either has room
for that word or has stopped there to have it served.
-/
theorem Passes.exists_batch
    (batched : engine.batched = true)
    (passes : engine.Passes console origin originChannel machine channel)
    (going : machine.isPast engine.program = false) :
    ∃ fuel,
      (engine.execute console fuel origin originChannel).ending = .unfinished ∧
        (engine.execute console fuel origin originChannel).channel = channel ∧
        ((∃ count, count < engine.batchSteps ∧
            Machine.runBatch engine.program engine.table count
                (engine.execute console fuel origin originChannel).machine =
              (.stepLimit, machine)) ∨
          Machine.runBatch engine.program engine.table engine.batchSteps
              (engine.execute console fuel origin originChannel).machine =
            (machine.stopReason engine.program, machine)) := by
  have emptyBatch :
      Machine.runBatch engine.program engine.table 0 machine = (.stepLimit, machine) := by
    simp only [Machine.runBatch, going, Bool.false_eq_true, ↓reduceIte]
  cases passes with
  | between fuel sound =>
      have unfinished := Passes.ending_of_going positive serves standing sound going
      exact ⟨fuel, unfinished, rfl, .inl ⟨0, positive, emptyBatch⟩⟩
  | inside fuel count _ within unfinished =>
      obtain ⟨rest, whole⟩ := Nat.exists_eq_add_of_le within
      have stops := Machine.stops_runBatch engine.program engine.table count
        (engine.execute console fuel origin originChannel).machine
      have resumed := Machine.runBatch_add engine.program engine.table count rest
        (engine.execute console fuel origin originChannel).machine
      rw [← whole] at resumed
      generalize batch :
        Machine.runBatch engine.program engine.table count
          (engine.execute console fuel origin originChannel).machine = result
        at stops resumed going emptyBatch ⊢
      cases stops with
      | finished past =>
          rw [past] at going
          cases going
      | served _ stop =>
          refine ⟨fuel, unfinished, rfl, .inr ?_⟩
          rw [resumed]
          split
          · next same =>
              exact absurd (congrArg Prod.fst same)
                (Machine.stopReason_ne_stepLimit engine.program _)
          · rfl
      | @limited stopped _ =>
          rcases Nat.lt_or_eq_of_le within with room | full
          · exact ⟨fuel, unfinished, rfl, .inl ⟨count, room, batch⟩⟩
          · -- The batch is full, so that the word is the first one of the next batch.
            rw [full] at batch
            have round :
                engine.execute console (fuel + 1) origin originChannel =
                  ⟨.unfinished, stopped,
                    (engine.execute console fuel origin originChannel).channel,
                    (engine.execute console fuel origin originChannel).notices.push
                      (.batchLimit stopped.pc stopped.steps)⟩ := by
              unfold execute at unfinished batch ⊢
              simp only [batched, ↓reduceIte] at unfinished batch ⊢
              rw [Machine.runBatches_add unfinished, Machine.runBatches, batch]
              rfl
            refine ⟨fuel + 1, ?_, ?_, .inl ⟨0, positive, ?_⟩⟩
            · rw [round]
            · rw [round]
            · rw [round]
              exact emptyBatch

theorem Passes.of_tapeStep?
    (batched : engine.batched = true)
    (passes : engine.Passes console origin originChannel machine channel)
    (going : machine.isPast engine.program = false)
    (stepped : machine.tapeStep? engine.program engine.table = some next) :
    engine.Passes console origin originChannel next channel := by
  obtain ⟨fuel, unfinished, rfl, ⟨count, room, batch⟩ | served⟩ :=
    passes.exists_batch positive serves standing batched going
  · rw [← Machine.runBatch_succ_snd going batch stepped]
    exact .inside fuel (count + 1) batched room unfinished
  · have limited := Machine.runBatch_eq_stepLimit going stepped (congrArg Prod.snd served)
    rw [served] at limited
    exact absurd (congrArg Prod.fst limited)
      (Machine.stopReason_ne_stepLimit engine.program machine)

/-- A batch that has stopped in front of a word is followed by what a step does with the word. -/
theorem Passes.of_stop
    (batched : engine.batched = true)
    (passes : engine.Passes console origin originChannel machine channel)
    (going : machine.isPast engine.program = false)
    (stop : machine.tapeStep? engine.program engine.table = none)
    (stepped :
      machine.step console engine.program engine.table channel = ⟨none, next, nextChannel⟩) :
    engine.Passes console origin originChannel next nextChannel := by
  obtain ⟨length, path⟩ := passes.exists_path positive serves standing
  have here := path.standing serves standing
  obtain ⟨fuel, unfinished, rfl, batch⟩ :=
    passes.exists_batch positive serves standing batched going
  have served :
      Machine.runBatch engine.program engine.table engine.batchSteps
          (engine.execute console fuel origin originChannel).machine =
        (machine.stopReason engine.program, machine) := by
    rcases batch with ⟨count, room, limited⟩ | served
    · obtain ⟨rest, whole⟩ := Nat.exists_eq_add_of_lt room
      rw [whole, Nat.add_assoc]
      exact Machine.runBatch_add_of_stop going limited stop rest
    · exact served
  have round :
      engine.execute console (fuel + 1) origin originChannel =
        if next.isPast engine.program then
          ⟨.finished, next, nextChannel,
            (engine.execute console fuel origin originChannel).notices⟩
        else
          ⟨.unfinished, next, nextChannel,
            (engine.execute console fuel origin originChannel).notices⟩ := by
    unfold execute at unfinished served stepped ⊢
    simp only [batched, ↓reduceIte] at unfinished served stepped ⊢
    rw [Machine.runBatches_add unfinished,
      Machine.runBatches_of_stop here going stop served 0, stepped]
    rfl
  split at round
  · exact .of_execute_eq round fun _ => Ending.noConfusion
  · exact .of_execute_eq round fun _ => Ending.noConfusion

theorem Passes.step
    (batched : engine.batched = true)
    (passes : engine.Passes console origin originChannel machine channel)
    (going : machine.isPast engine.program = false)
    (stepped :
      machine.step console engine.program engine.table channel = ⟨none, next, nextChannel⟩) :
    engine.Passes console origin originChannel next nextChannel := by
  cases taken : machine.tapeStep? engine.program engine.table with
  | none =>
      exact passes.of_stop positive serves standing batched going taken stepped
  | some other =>
      obtain ⟨_, path⟩ := passes.exists_path positive serves standing
      obtain ⟨same, _⟩ := Machine.step_of_tapeStep? serves (path.standing serves standing) going
        taken console channel
      rw [stepped] at same
      cases same
      exact passes.of_tapeStep? positive serves standing batched going taken

theorem Passes.path
    {count : Nat}
    (batched : engine.batched = true)
    (passes : engine.Passes console origin originChannel machine channel)
    (path : Machine.Path console engine.program engine.table count machine channel last
      lastChannel) :
    engine.Passes console origin originChannel last lastChannel := by
  induction path with
  | refl =>
      exact passes
  | step going first _ inductionHypothesis =>
      exact inductionHypothesis
        (passes.step positive serves standing batched going first)

/-- An execution that goes on for ever follows paths of every length. -/
theorem diverges_iff_path :
    engine.Diverges console origin originChannel ↔
      ∀ count, ∃ last lastChannel,
        Machine.Path console engine.program engine.table count origin originChannel last
          lastChannel := by
  constructor
  · intro diverges
    rcases Machine.exists_ends_or_path console engine.program engine.table origin
      originChannel with ⟨count, ending, last, lastChannel, ends⟩ | paths
    · exact absurd ((executes_iff_ends positive serves standing).mpr ⟨count, ends⟩)
        (diverges ending last lastChannel)
    · exact paths
  · intro paths ending last lastChannel executes
    obtain ⟨count, ends⟩ := (executes_iff_ends positive serves standing).mp executes
    obtain ⟨_, _, longer⟩ := paths (count + 1)
    exact absurd (ends.path_le longer) (Nat.not_succ_le_self count)

/-- An execution comes through the machines to which paths lead, in either mode. -/
theorem passes_iff_path :
    engine.Passes console origin originChannel machine channel ↔
      ∃ count, Machine.Path console engine.program engine.table count origin originChannel
        machine channel := by
  constructor
  · intro passes
    exact passes.exists_path positive serves standing
  · rintro ⟨count, path⟩
    cases batched : engine.batched with
    | false =>
        have same :
            engine.execute console count origin originChannel =
              ⟨.unfinished, machine, channel, #[]⟩ := by
          unfold execute
          simp only [batched, Bool.false_eq_true, ↓reduceIte]
          exact path.runSteps_add 0
        exact .of_execute_eq same fun _ => Ending.noConfusion
    | true =>
        have unmoved :
            engine.execute console 0 origin originChannel =
              ⟨.unfinished, origin, originChannel, #[]⟩ := by
          unfold execute
          simp only [batched, ↓reduceIte]
          rfl
        have passes : engine.Passes console origin originChannel origin originChannel :=
          .of_execute_eq unmoved fun _ => Ending.noConfusion
        exact passes.path positive serves standing batched path

end

/-- The state in which a run leaves an engine whose machine and console are as given. -/
def State.behind
    (machine : Machine)
    (channel : σ) :
    State σ :=
  leftAfter ⟨.finished, machine, channel, #[]⟩

/-- Steps with enough fuel answer what they end with, and leave an engine behind their end. -/
theorem answers_iff_ends
    {answer : Outcome Machine}
    {left : State σ} :
    (∃ fuel,
      answer? (origin.runSteps console engine.program engine.table fuel originChannel) =
          some answer ∧
        leftAfter (origin.runSteps console engine.program engine.table fuel originChannel) =
          left) ↔
      ∃ count ending machine channel,
        answer? ⟨ending, machine, channel, #[]⟩ = some answer ∧
          left = .behind machine channel ∧
          Machine.Ends console engine.program engine.table count origin originChannel
            ending machine channel := by
  constructor
  · rintro ⟨fuel, answers, rfl⟩
    obtain ⟨count, ends⟩ := Machine.exists_ends_of_ended (ending_of_answer? answers)
    exact ⟨count, _, _, _, answers, rfl, ends⟩
  · rintro ⟨count, ending, last, channel, answers, rfl, ends⟩
    have stops := ends.runSteps_eq 0
    exact ⟨_, by rw [stops]; exact answers, by rw [stops]; rfl⟩

/-- Whether a run from a state comes through a machine and a state of the console. -/
def RunPasses
    (engine : Engine)
    (console : Console σ)
    (state : State σ)
    (machine : Machine)
    (channel : σ) :
    Prop :=
  ∃ tape, engine.host.newTape? engine.tapeSize = some tape ∧
    engine.Passes console (.start tape) state.channel machine channel

section

variable
  {state left : State σ}
  {tape : Array UInt8}
  (positive : 0 < engine.batchSteps)
  (serves : engine.table.Serves engine.program)
  (granted : engine.host.newTape? engine.tapeSize = some tape)

include granted

/-- A run comes through what its execution on the granted tape comes through. -/
theorem runPasses_iff_passes :
    engine.RunPasses console state machine channel ↔
      engine.Passes console (.start tape) state.channel machine channel := by
  constructor
  · rintro ⟨other, same, passes⟩
    rw [granted] at same
    cases same
    exact passes
  · intro passes
    exact ⟨tape, granted, passes⟩

include positive serves

theorem runPasses_iff_path :
    engine.RunPasses console state machine channel ↔
      ∃ count, Machine.Path console engine.program engine.table count (.start tape)
        state.channel machine channel := by
  rw [runPasses_iff_passes granted, passes_iff_path positive serves (Int.le_refl 0)]

/-- A run comes to the conclusion that its steps come to. -/
theorem concludes_iff_ends
    {answer : Outcome Machine} :
    engine.Concludes console state answer left ↔
      ∃ count ending machine channel,
        answer? ⟨ending, machine, channel, #[]⟩ = some answer ∧
          left = .behind machine channel ∧
          Machine.Ends console engine.program engine.table count (.start tape) state.channel
            ending machine channel := by
  rw [concludes_iff_runSteps engine positive serves granted]
  exact answers_iff_ends

/-- A run returns a machine when its steps come past the end of the program with it. -/
theorem concludes_ok_iff :
    engine.Concludes console state (.ok machine) left ↔
      ∃ count channel, left = .behind machine channel ∧
        Machine.Ends console engine.program engine.table count (.start tape) state.channel
          .finished machine channel := by
  rw [concludes_iff_ends positive serves granted]
  constructor
  · rintro ⟨count, ending, last, channel, answers, same, ends⟩
    cases ends with
    | finished path past =>
        cases answers
        exact ⟨count, channel, same, .finished path past⟩
    | failed =>
        cases answers
  · rintro ⟨count, channel, same, ends⟩
    exact ⟨count, .finished, machine, channel, rfl, same, ends⟩

/-- A run raises a failure when its steps come to a word that fails with it. -/
theorem concludes_error_iff
    {failure : Failure} :
    engine.Concludes console state (.error failure) left ↔
      ∃ count machine channel, left = .behind machine channel ∧
        Machine.Ends console engine.program engine.table count (.start tape) state.channel
          (.failed failure) machine channel := by
  rw [concludes_iff_ends positive serves granted]
  constructor
  · rintro ⟨count, ending, last, channel, answers, same, ends⟩
    cases ends with
    | finished =>
        cases answers
    | failed path going fails =>
        cases answers
        exact ⟨count, last, channel, same, .failed path going fails⟩
  · rintro ⟨count, last, channel, same, ends⟩
    exact ⟨count, .failed failure, last, channel, rfl, same, ends⟩

/-- A run that comes to an obstacle raises it there. -/
theorem concludes_of_obstacle
    {failure : Failure}
    (passes : engine.RunPasses console state machine channel)
    (obstacle :
      Machine.Obstacle console engine.program machine channel failure nextChannel) :
    engine.Concludes console state (.error failure) (.behind machine nextChannel) := by
  obtain ⟨count, path⟩ := (runPasses_iff_path positive serves granted).mp passes
  have standing := path.standing serves (Int.le_refl 0)
  exact (concludes_error_iff positive serves granted).mpr
    ⟨count, machine, nextChannel, rfl,
      .failed path (obstacle.going standing) (obstacle.step_eq standing)⟩

end

end Engine

end Brainfuck
