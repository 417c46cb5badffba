import Brainfuck.Proofs.Engine.Containment

namespace Brainfuck.Engine

/-!
# Stepping by hand

A program may be stepped by hand, from a start to the first step that answers
that the program does not go on.  The states on the way are those to which paths
lead, and so are the machines of a run that works step by step: both come through
the same machines and the same states of the console, and both end alike.
-/

variable {σ : Type}

/-- The engine that differs at most in that it works step by step. -/
def stepwise (engine : Engine) : Engine :=
  { engine with batched := false }

/--
Whether stepping by hand comes from a state to another one, and whether it goes on
there.
-/
inductive ByHand
    (engine : Engine)
    (console : Console σ)
    (begun : State σ) :
    Bool → State σ → Prop where
  | begun :
      ByHand engine console begun true begun
  | step
      {going : Bool}
      {state next : State σ}
      (visited : ByHand engine console begun true state)
      (answers : engine.step console state = .ok going next) :
      ByHand engine console begun going next

/-- How stepping by hand from `begun` compares with a run, step by step, from `used`. -/
structure StepsLikeRun
    (engine : Engine)
    (console : Console σ)
    (used begun : State σ) :
    Prop where
  /-- Every state on the way has a machine, and nothing is noted on the way. -/
  held : ∀ going state, engine.ByHand console begun going state →
    ∃ machine, state = .ofMachine machine state.channel used.notices
  /--
  Both come through the same machines, each with the same state of the console.
  Machines count their steps, so that the order is the same as well.
  -/
  visits : ∀ machine channel,
    (∃ going, engine.ByHand console begun going (.ofMachine machine channel used.notices)) ↔
      engine.stepwise.RunPasses console used machine channel
  /-- Stepping ends with a snapshot that equals what the run returns. -/
  finishes : ∀ machine left,
    engine.stepwise.Concludes console used (.ok machine) left ↔
      ∃ last, engine.ByHand console begun false last ∧
        snapshot last = .ok machine last ∧
        left = .behind machine last.channel
  /-- A step raises what the run raises. -/
  raises : ∀ failure left,
    engine.stepwise.Concludes console used (.error failure) left ↔
      ∃ state machine channel, engine.ByHand console begun true state ∧
        engine.step console state =
          .error failure (.ofMachine machine channel used.notices) ∧
        left = .behind machine channel
  /-- Once stepping has ended, a step changes nothing. -/
  stays : ∀ last, engine.ByHand console begun false last →
    engine.step console last = .ok false last

variable
  {engine : Engine}
  {console : Console σ}
  {origin machine next last : Machine}
  {originChannel channel nextChannel lastChannel : σ}
  {notices : Array Notice}
  {state begun left : State σ}
  {tape : Array UInt8}

/-! A run step by step follows paths, whatever its table is. -/

theorem passes_stepwise_iff :
    engine.stepwise.Passes console origin originChannel machine channel ↔
      ∃ count, Machine.Path console engine.program engine.table count origin originChannel
        machine channel := by
  constructor
  · intro passes
    cases passes with
    | between fuel sound =>
        change ∀ failure,
          (origin.runSteps console engine.program engine.table fuel originChannel).ending ≠
            .failed failure at sound
        change ∃ count, Machine.Path console engine.program engine.table count origin
          originChannel
          (origin.runSteps console engine.program engine.table fuel originChannel).machine
          (origin.runSteps console engine.program engine.table fuel originChannel).channel
        exact Machine.exists_path_of_sound sound
    | inside _ _ batched =>
        cases batched
  · rintro ⟨count, path⟩
    have same :
        engine.stepwise.execute console count origin originChannel =
          ⟨.unfinished, machine, channel, #[]⟩ :=
      path.runSteps_add 0
    exact .of_execute_eq same fun _ => Ending.noConfusion

theorem concludes_stepwise_iff
    {answer : Outcome Machine}
    (granted : engine.host.newTape? engine.tapeSize = some tape) :
    engine.stepwise.Concludes console state answer left ↔
      ∃ count ending machine channel,
        answer? ⟨ending, machine, channel, #[]⟩ = some answer ∧
          left = .behind machine channel ∧
          Machine.Ends console engine.program engine.table count (.start tape) state.channel
            ending machine channel := by
  have alike : engine.stepwise.host.newTape? engine.stepwise.tapeSize = some tape := granted
  have works (fuel : Nat) :
      engine.stepwise.execute console fuel (.start tape) state.channel =
        Machine.runSteps console engine.program engine.table fuel (.start tape)
          state.channel :=
    rfl
  rw [concludes_iff alike]
  simp only [works]
  exact answers_iff_ends

theorem runPasses_stepwise_iff (granted : engine.host.newTape? engine.tapeSize = some tape) :
    engine.stepwise.RunPasses console state machine channel ↔
      ∃ count, Machine.Path console engine.program engine.table count (.start tape)
        state.channel machine channel := by
  have alike : engine.stepwise.host.newTape? engine.stepwise.tapeSize = some tape := granted
  rw [runPasses_iff_passes alike, passes_stepwise_iff]

/-! A step of an engine is one of its machine. -/

theorem State.ofMachine_injective
    (same :
      State.ofMachine machine channel notices = .ofMachine next nextChannel notices) :
    machine = next ∧ channel = nextChannel :=
  ⟨Option.some.inj (congrArg State.machine? same), congrArg State.channel same⟩

theorem step_ofMachine
    (engine : Engine)
    (console : Console σ)
    (machine : Machine)
    (channel : σ)
    (notices : Array Notice) :
    engine.step console (.ofMachine machine channel notices) =
      engine.stepFrom console machine channel notices :=
  rfl

theorem step_ofMachine_of_isPast
    (past : machine.isPast engine.program = true)
    (console : Console σ)
    (channel : σ)
    (notices : Array Notice) :
    engine.step console (.ofMachine machine channel notices) =
      .ok false (.ofMachine machine channel notices) := by
  rw [step_ofMachine, stepFrom, past]
  rfl

theorem step_ofMachine_of_step
    (going : machine.isPast engine.program = false)
    (stepped :
      machine.step console engine.program engine.table channel = ⟨none, next, nextChannel⟩)
    (notices : Array Notice) :
    engine.step console (.ofMachine machine channel notices) =
      .ok (!next.isPast engine.program) (.ofMachine next nextChannel notices) := by
  rw [step_ofMachine, stepFrom, going, stepped]
  rfl

theorem step_ofMachine_of_failure
    {failure : Failure}
    (going : machine.isPast engine.program = false)
    (fails :
      machine.step console engine.program engine.table channel =
        ⟨some failure, next, nextChannel⟩)
    (notices : Array Notice) :
    engine.step console (.ofMachine machine channel notices) =
      .error failure (.ofMachine next nextChannel notices) := by
  rw [step_ofMachine, stepFrom, going, fails]
  rfl

/-- A step that fails meets a word that fails. -/
theorem step_of_step_eq_error
    {failure : Failure}
    (fails : engine.step console (.ofMachine machine channel notices) = .error failure left) :
    machine.isPast engine.program = false ∧
      ∃ next nextChannel,
        machine.step console engine.program engine.table channel =
            ⟨some failure, next, nextChannel⟩ ∧
          left = .ofMachine next nextChannel notices := by
  rw [step_ofMachine] at fails
  rcases engine.stepFrom_cases console machine channel notices with
    ⟨_, ends⟩ | ⟨_, _, _, _, goesOn⟩ | ⟨going, other, next, nextChannel, stepped, raised⟩
  · rw [ends] at fails
    cases fails
  · rw [goesOn] at fails
    cases fails
  · rw [raised] at fails
    cases fails
    exact ⟨going, next, nextChannel, stepped, rfl⟩

namespace ByHand

theorem append
    {going : Bool}
    {middle : State σ}
    (first : engine.ByHand console begun true middle)
    (later : engine.ByHand console middle going left) :
    engine.ByHand console begun going left := by
  induction later with
  | begun =>
      exact first
  | step _ answers inductionHypothesis =>
      exact .step inductionHypothesis answers

/-- Steps by hand follow a path, and they end where the program does. -/
theorem exists_path
    {going : Bool}
    (byHand : engine.ByHand console (.ofMachine origin originChannel notices) going state) :
    ∃ count machine channel,
      state = .ofMachine machine channel notices ∧
        Machine.Path console engine.program engine.table count origin originChannel machine
          channel ∧
        (going = false → machine.isPast engine.program = true) := by
  induction byHand with
  | begun =>
      exact ⟨0, origin, originChannel, rfl, .refl origin originChannel, Bool.noConfusion⟩
  | step _ answers inductionHypothesis =>
      obtain ⟨count, machine, channel, rfl, path, _⟩ := inductionHypothesis
      rw [step_ofMachine] at answers
      rcases engine.stepFrom_cases console machine channel notices with
        ⟨past, ends⟩ | ⟨going, next, nextChannel, stepped, goesOn⟩ | ⟨_, _, _, _, _, fails⟩
      · rw [ends] at answers
        cases answers
        exact ⟨count, machine, channel, rfl, path, fun _ => past⟩
      · rw [goesOn] at answers
        cases answers
        refine ⟨count + 1, next, nextChannel, rfl, path.snoc going stepped, ?_⟩
        exact fun ended => (Bool.not_eq_false' _).mp ended
      · rw [fails] at answers
        cases answers

end ByHand

/-- Stepping by hand follows every path. -/
theorem exists_byHand_of_path
    {count : Nat}
    (path : Machine.Path console engine.program engine.table count machine channel last
      lastChannel)
    (notices : Array Notice) :
    ∃ going, engine.ByHand console (.ofMachine machine channel notices) going
      (.ofMachine last lastChannel notices) := by
  induction path with
  | refl machine channel =>
      exact ⟨true, .begun⟩
  | @step _ machine next last channel nextChannel lastChannel going first later
      inductionHypothesis =>
      have answers := step_ofMachine_of_step going first notices
      have stepped :
          engine.ByHand console (.ofMachine machine channel notices)
            (!next.isPast engine.program) (.ofMachine next nextChannel notices) :=
        .step .begun answers
      cases past : next.isPast engine.program with
      | false =>
          rw [past] at stepped
          obtain ⟨on, byHand⟩ := inductionHypothesis
          exact ⟨on, stepped.append byHand⟩
      | true =>
          -- The step has answered that the program ends here, and so does the path.
          cases later with
          | refl =>
              exact ⟨_, stepped⟩
          | step further =>
              rw [past] at further
              cases further

/-- Where the program goes on, so does stepping by hand. -/
theorem byHand_of_path_of_going
    {count : Nat}
    (path : Machine.Path console engine.program engine.table count machine channel last
      lastChannel)
    (goes : last.isPast engine.program = false)
    (notices : Array Notice) :
    engine.ByHand console (.ofMachine machine channel notices) true
      (.ofMachine last lastChannel notices) := by
  obtain ⟨going, byHand⟩ := exists_byHand_of_path path notices
  cases going with
  | true =>
      exact byHand
  | false =>
      obtain ⟨_, other, _, same, _, past⟩ := byHand.exists_path
      obtain ⟨rfl, rfl⟩ := State.ofMachine_injective same
      rw [past rfl] at goes
      cases goes

/-- Where the program has ended, stepping by hand ends; one more step may be needed to tell. -/
theorem byHand_of_path_of_isPast
    {count : Nat}
    (path : Machine.Path console engine.program engine.table count machine channel last
      lastChannel)
    (past : last.isPast engine.program = true)
    (notices : Array Notice) :
    engine.ByHand console (.ofMachine machine channel notices) false
      (.ofMachine last lastChannel notices) := by
  obtain ⟨going, byHand⟩ := exists_byHand_of_path path notices
  cases going with
  | false =>
      exact byHand
  | true =>
      -- The path has no step, so that none has told yet that the program is over.
      exact .step byHand (step_ofMachine_of_isPast past console lastChannel notices)

theorem start_of_granted
    (granted : engine.host.newTape? engine.tapeSize = some tape)
    (state : State σ) :
    engine.start state = .ok () (.ofMachine (.start tape) state.channel state.notices) := by
  unfold start
  rw [granted]

/-- From a start, stepping by hand compares with a run step by step. -/
theorem stepsLikeRun_of_granted
    (granted : engine.host.newTape? engine.tapeSize = some tape)
    (console : Console σ)
    (used : State σ) :
    engine.StepsLikeRun console used
      (.ofMachine (.start tape) used.channel used.notices) where
  held going state byHand := by
    obtain ⟨_, machine, channel, rfl, _, _⟩ := byHand.exists_path
    exact ⟨machine, rfl⟩
  visits machine channel := by
    rw [runPasses_stepwise_iff granted]
    constructor
    · rintro ⟨going, byHand⟩
      obtain ⟨count, _, _, same, path, _⟩ := byHand.exists_path
      obtain ⟨rfl, rfl⟩ := State.ofMachine_injective same
      exact ⟨count, path⟩
    · rintro ⟨count, path⟩
      exact exists_byHand_of_path path used.notices
  finishes machine left := by
    rw [concludes_stepwise_iff granted]
    constructor
    · rintro ⟨count, ending, last, channel, answers, rfl, ends⟩
      cases ends with
      | failed =>
          cases answers
      | finished path past =>
          cases answers
          exact ⟨_, byHand_of_path_of_isPast path past used.notices, rfl, rfl⟩
    · rintro ⟨last, byHand, shown, rfl⟩
      obtain ⟨count, other, channel, rfl, path, past⟩ := byHand.exists_path
      cases shown
      exact ⟨count, .finished, other, channel, rfl, rfl, .finished path (past rfl)⟩
  raises failure left := by
    rw [concludes_stepwise_iff granted]
    constructor
    · rintro ⟨count, ending, last, channel, answers, rfl, ends⟩
      cases ends with
      | finished =>
          cases answers
      | failed path going fails =>
          cases answers
          exact ⟨_, last, channel, byHand_of_path_of_going path going used.notices,
            step_ofMachine_of_failure going fails used.notices, rfl⟩
    · rintro ⟨state, machine, channel, byHand, raised, rfl⟩
      obtain ⟨count, other, otherChannel, rfl, path, _⟩ := byHand.exists_path
      obtain ⟨going, next, nextChannel, fails, same⟩ := step_of_step_eq_error raised
      obtain ⟨rfl, rfl⟩ := State.ofMachine_injective same
      exact ⟨count, .failed failure, machine, channel, rfl, rfl, .failed path going fails⟩
  stays last byHand := by
    obtain ⟨_, machine, channel, rfl, _, past⟩ := byHand.exists_path
    exact step_ofMachine_of_isPast (past rfl) console channel used.notices

end Brainfuck.Engine
