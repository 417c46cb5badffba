import Brainfuck.Console.Trace
import Brainfuck.Proofs.Engine.ByHand

namespace Brainfuck.Engine

/-!
# Runs that begin afresh

Whatever was called on an engine before, a run begins on a tape of its own and
gives it up in the end.  It cannot be told from a run of an engine that was not
used yet and talks to the same console, and it leaves nothing behind that a later
step would work on.
-/

variable {σ : Type}

/-- A state whose notices come behind earlier ones. -/
def State.notedBehind
    (state : State σ)
    (earlier : Array Notice) :
    State σ :=
  { state with notices := earlier ++ state.notices }

/-- What an action answers and leaves, with its notices behind earlier ones. -/
def resultBehind
    {α : Type}
    (earlier : Array Notice) :
    EStateM.Result Failure (State σ) α → EStateM.Result Failure (State σ) α
  | .ok value left => .ok value (left.notedBehind earlier)
  | .error failure left => .error failure (left.notedBehind earlier)

/-- A state whose exchanges with the console are recorded from now on. -/
def State.listening (state : State σ) : State (σ × List Exchange) where
  tape := state.tape
  pointer := state.pointer
  pc := state.pc
  steps := state.steps
  channel := (state.channel, [])
  notices := state.notices

/-- How an engine in some state runs as if it were new, as far as it gets a tape. -/
structure RunsAfresh
    (engine : Engine)
    (console : Console σ)
    (used : State σ) :
    Prop where
  /-- However a run on a tape ends, there is no tape left. -/
  released : engine.host.grantsTape engine.tapeSize = true → ∀ fuel,
    (leftBy (engine.run console fuel used)).tape = none
  /-- A run answers, and leaves registers and console, as that of a new engine. -/
  run : engine.host.grantsTape engine.tapeSize = true → ∀ fuel,
    engine.run console fuel used =
      resultBehind used.notices (engine.run console fuel (.initial used.channel))
  /-- The next step begins at the first address, on a tape of zero cells. -/
  next : engine.host.grantsTape engine.tapeSize = true → ∀ fuel,
    engine.step console (leftBy (engine.run console fuel used)) =
      engine.stepFrom console (.start (Array.replicate engine.tapeSize 0))
        (leftBy (engine.run console fuel used)).channel
        (leftBy (engine.run console fuel used)).notices
  /-- Stepping by hand from a start compares with a run step by step. -/
  byHand : engine.host.grantsTape engine.tapeSize = true →
    ∃ begun, engine.start used = .ok () begun ∧ engine.StepsLikeRun console used begun

variable
  {engine : Engine}
  {state : State σ}
  {tape : Array UInt8}

theorem tape_leftBy_run
    (granted : engine.host.newTape? engine.tapeSize = some tape)
    (console : Console σ)
    (fuel : Nat)
    (state : State σ) :
    (leftBy (engine.run console fuel state)).tape = none :=
  congrArg State.tape (leftBy_run_of_granted granted console fuel state)

/-- The registers and the notices of a state have no influence on a run. -/
theorem run_eq_resultBehind
    (granted : engine.host.newTape? engine.tapeSize = some tape)
    (console : Console σ)
    (fuel : Nat)
    (state : State σ) :
    engine.run console fuel state =
      resultBehind state.notices (engine.run console fuel (.initial state.channel)) := by
  have noted (execution : Execution σ) :
      State.ofExecution execution state.notices =
        (State.ofExecution execution #[]).notedBehind state.notices := by
    simp only [State.ofExecution, State.notedBehind, Array.empty_append, Array.append_assoc]
  unfold run
  rw [granted]
  dsimp only [State.initial]
  cases ended : (engine.execute console fuel (.start tape) state.channel).ending <;>
    simp only [noted] <;> rfl

theorem runsAfresh
    (used : State σ)
    (console : Console σ) :
    engine.RunsAfresh console used where
  released granted fuel := tape_leftBy_run (newTape?_of_grantsTape granted) console fuel used
  run granted fuel := run_eq_resultBehind (newTape?_of_grantsTape granted) console fuel used
  next granted fuel := by
    have fresh := newTape?_of_grantsTape granted
    have works :
        engine.machineAt? (leftBy (engine.run console fuel used)) =
          some (.start (Array.replicate engine.tapeSize 0)) := by
      simp only [machineAt?, State.machine?, tape_leftBy_run fresh, fresh, Option.map_none,
        Option.map_some]
    exact step_eq_stepFrom console works
  byHand granted := by
    have fresh := newTape?_of_grantsTape granted
    exact ⟨_, start_of_granted fresh used, stepsLikeRun_of_granted fresh console used⟩

/--
Whatever was called on an engine before, completed or not, it runs afresh: with
the same effect on the console, and with the same exchanges in the same order.
-/
theorem runsAfresh_afterCalls
    (engine : Engine)
    (console : Console σ)
    (calls : List Call)
    (channel : σ) :
    engine.RunsAfresh console (engine.afterCalls console calls (.initial channel)) ∧
      engine.RunsAfresh console.traced
        (engine.afterCalls console calls (.initial channel)).listening := by
  let used := engine.afterCalls console calls (.initial channel)
  exact ⟨runsAfresh used console, runsAfresh used.listening console.traced⟩

/-- An engine that has run off its tape, and was then stepped by hand and left alone. -/
theorem runsAfresh_off_the_tape :
    Host.large.grantsTape 2 = true ∧
      RunsAfresh
        ⟨.ofOpcodes [.increment, .moveLeft], ⟨#[0, 1], #[false, false]⟩, 2, true, 3, .large⟩
        Channel.console
        (afterCalls
          ⟨.ofOpcodes [.increment, .moveLeft], ⟨#[0, 1], #[false, false]⟩, 2, true, 3, .large⟩
          Channel.console [.run 9, .start, .step, .snapshot] (.initial .empty)) := by
  have granted : Host.large.grantsTape 2 = true := by decide
  exact ⟨granted, (runsAfresh_afterCalls _ Channel.console _ .empty).1⟩

end Brainfuck.Engine
