import Brainfuck.Engine
import Brainfuck.Proofs.Machine.BatchedRun

namespace Brainfuck

/-!
# What runs of an engine come to

A run comes to a conclusion when some amount of fuel lasts to its end: it answers
with a last machine or a failure, and leaves the engine in a state.  Notices are
put aside, since they tell how an engine works and not what a program does.
Whether an engine works in batches has no influence on its conclusions.
-/

namespace Engine

variable {σ : Type}

/-- The state of an engine with its notices put aside. -/
def State.quiet (state : State σ) : State σ :=
  { state with notices := #[] }

/-- The state that an action leaves behind. -/
def leftBy
    {α : Type} :
    EStateM.Result Failure (State σ) α → State σ
  | .ok _ left => left
  | .error _ left => left

/-- The answer of a run and the state it leaves, unless its fuel did not last. -/
def conclusion? :
    EStateM.Result Failure (State σ) (Option Machine) → Option (Outcome Machine × State σ)
  | .ok (some machine) left => some (.ok machine, left.quiet)
  | .ok none _ => none
  | .error failure left => some (.error failure, left.quiet)

/-- Whether a run with enough fuel answers and leaves a state as given. -/
def Concludes
    (engine : Engine)
    (console : Console σ)
    (state : State σ)
    (answer : Outcome Machine)
    (left : State σ) :
    Prop :=
  ∃ fuel, conclusion? (engine.run console fuel state) = some (answer, left)

/-- The answer of an execution, unless it is unfinished. -/
def answer? (execution : Execution σ) : Option (Outcome Machine) :=
  match execution.ending with
  | .finished => some (.ok execution.machine)
  | .failed failure => some (.error failure)
  | .unfinished => none

/-- The state in which an execution leaves an engine. -/
def leftAfter (execution : Execution σ) : State σ where
  tape := none
  pointer := execution.machine.pointer
  pc := execution.machine.pc
  steps := execution.machine.steps
  channel := execution.channel
  notices := #[]

theorem ending_of_answer?
    {execution : Execution σ}
    {answer : Outcome Machine}
    (answers : answer? execution = some answer) :
    execution.ending ≠ .unfinished := by
  intro unfinished
  unfold answer? at answers
  rw [unfinished] at answers
  cases answers

end Engine

namespace Execution.Agrees

variable
  {σ : Type}
  {one other : Execution σ}

theorem answer?_eq (agrees : one.Agrees other) :
    Engine.answer? one = Engine.answer? other := by
  unfold Engine.answer?
  rw [agrees.ending, agrees.machine]

theorem leftAfter_eq (agrees : one.Agrees other) :
    Engine.leftAfter one = Engine.leftAfter other := by
  unfold Engine.leftAfter
  rw [agrees.machine, agrees.channel]

end Execution.Agrees

namespace Engine

variable
  {σ : Type}
  {engine : Engine}
  {console : Console σ}
  {state left : State σ}
  {answer : Outcome Machine}

theorem conclusion?_run
    {tape : Array UInt8}
    (granted : engine.host.newTape? engine.tapeSize = some tape)
    (fuel : Nat) :
    conclusion? (engine.run console fuel state) =
      (answer? (engine.execute console fuel (.start tape) state.channel)).map
        fun answer =>
          (answer, leftAfter (engine.execute console fuel (.start tape) state.channel)) := by
  unfold run answer?
  rw [granted]
  cases ended : (engine.execute console fuel (.start tape) state.channel).ending <;>
    simp only [ended] <;> rfl

/-- However a run on a granted tape ends, it leaves an engine behind its execution. -/
theorem leftBy_run_of_granted
    {tape : Array UInt8}
    (granted : engine.host.newTape? engine.tapeSize = some tape)
    (console : Console σ)
    (fuel : Nat)
    (state : State σ) :
    leftBy (engine.run console fuel state) =
      .ofExecution (engine.execute console fuel (.start tape) state.channel) state.notices := by
  unfold run
  rw [granted]
  cases ended : (engine.execute console fuel (.start tape) state.channel).ending <;>
    simp only [ended] <;> rfl

/-- A run without a tape fails and leaves the engine as it was. -/
theorem concludes_of_refused
    (engine : Engine)
    (refused : engine.host.newTape? engine.tapeSize = none) :
    engine.Concludes console state answer left ↔
      answer = .error (.tapeTooLarge engine.tapeSize) ∧ left = state.quiet := by
  unfold Concludes run
  rw [refused]
  simp [conclusion?, eq_comm]

theorem concludes_iff
    {tape : Array UInt8}
    (granted : engine.host.newTape? engine.tapeSize = some tape) :
    engine.Concludes console state answer left ↔
      ∃ fuel,
        answer? (engine.execute console fuel (.start tape) state.channel) = some answer ∧
          leftAfter (engine.execute console fuel (.start tape) state.channel) = left := by
  constructor
  · rintro ⟨fuel, concludes⟩
    rw [conclusion?_run granted, Option.map_eq_some_iff] at concludes
    obtain ⟨found, answers, same⟩ := concludes
    cases same
    exact ⟨fuel, answers, rfl⟩
  · rintro ⟨fuel, answers, rfl⟩
    refine ⟨fuel, ?_⟩
    rw [conclusion?_run granted, answers]
    rfl

/-- In either mode, a run on a granted tape concludes as steps do. -/
theorem concludes_iff_runSteps
    (engine : Engine)
    {tape : Array UInt8}
    (positive : 0 < engine.batchSteps)
    (serves : engine.table.Serves engine.program)
    (granted : engine.host.newTape? engine.tapeSize = some tape) :
    engine.Concludes console state answer left ↔
      ∃ fuel,
        answer? (Machine.runSteps console engine.program engine.table fuel (.start tape)
          state.channel) = some answer ∧
          leftAfter (Machine.runSteps console engine.program engine.table fuel (.start tape)
            state.channel) = left := by
  rw [concludes_iff granted]
  have standing : 0 ≤ (Machine.start tape).pc := Int.le_refl 0
  cases mode : engine.batched with
  | false =>
      simp only [execute, mode, Bool.false_eq_true, ↓reduceIte]
  | true =>
      simp only [execute, mode, ↓reduceIte]
      constructor
      · rintro ⟨fuel, answers, leaves⟩
        obtain ⟨count, agrees⟩ :=
          (Machine.runBatches_ended_iff serves standing positive (ending_of_answer? answers)).mp
            ⟨fuel, .refl _⟩
        exact ⟨count, agrees.answer?_eq.trans answers, agrees.leftAfter_eq.trans leaves⟩
      · rintro ⟨count, answers, leaves⟩
        obtain ⟨fuel, agrees⟩ :=
          (Machine.runBatches_ended_iff serves standing positive (ending_of_answer? answers)).mpr
            ⟨count, .refl _⟩
        exact ⟨fuel, agrees.answer?_eq.trans answers, agrees.leftAfter_eq.trans leaves⟩

/-- A run comes to one conclusion at most. -/
theorem Concludes.unique
    {other : Outcome Machine}
    {otherLeft : State σ}
    (positive : 0 < engine.batchSteps)
    (serves : engine.table.Serves engine.program)
    (concludes : engine.Concludes console state answer left)
    (alike : engine.Concludes console state other otherLeft) :
    answer = other ∧ left = otherLeft := by
  cases tape? : engine.host.newTape? engine.tapeSize with
  | none =>
      obtain ⟨rfl, rfl⟩ := (concludes_of_refused engine tape?).mp concludes
      obtain ⟨rfl, rfl⟩ := (concludes_of_refused engine tape?).mp alike
      exact ⟨rfl, rfl⟩
  | some tape =>
      obtain ⟨fuel, answers, rfl⟩ :=
        (concludes_iff_runSteps engine positive serves tape?).mp concludes
      obtain ⟨more, otherAnswers, rfl⟩ :=
        (concludes_iff_runSteps engine positive serves tape?).mp alike
      have same := Machine.runSteps_eq_of_ended (ending_of_answer? answers)
        (ending_of_answer? otherAnswers)
      rw [same, otherAnswers, Option.some.injEq] at answers
      exact ⟨answers.symm, congrArg leftAfter same⟩

/-- Engines that differ only in whether they work in batches come to the same conclusions. -/
theorem concludes_batched_iff
    (positive : 0 < engine.batchSteps)
    (serves : engine.table.Serves engine.program)
    (state left : State σ)
    (answer : Outcome Machine) :
    { engine with batched := true }.Concludes console state answer left ↔
      { engine with batched := false }.Concludes console state answer left := by
  let batchedEngine : Engine := { engine with batched := true }
  let steppedEngine : Engine := { engine with batched := false }
  change batchedEngine.Concludes console state answer left ↔
    steppedEngine.Concludes console state answer left
  cases tape? : engine.host.newTape? engine.tapeSize with
  | none =>
      exact (concludes_of_refused batchedEngine tape?).trans
        (concludes_of_refused steppedEngine tape?).symm
  | some tape =>
      exact (concludes_iff_runSteps batchedEngine positive serves tape?).trans
        (concludes_iff_runSteps steppedEngine positive serves tape?).symm

end Engine

end Brainfuck
