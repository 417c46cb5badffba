import Brainfuck.Proofs.Console.Script
import Brainfuck.Proofs.Engine.ByHand

namespace Brainfuck.Engine

/-!
# Repeating steps that fail

A step that fails leaves the tape and the registers of an engine as they were,
so that it may simply be made again.  On a script of input, making each step
again for which the console fails comes through the same states as stepping on
the mended script: a failure in front of an answer costs one more call and
nothing else.
-/

/--
Whether stepping by hand, where a step is made again after a failure of the console, comes
from a state to another one, and whether it goes on there.
-/
inductive Retries
    {σ : Type}
    (engine : Engine)
    (console : Console σ)
    (begun : State σ) :
    Bool → State σ → Prop where
  | begun :
      Retries engine console begun true begun
  | step
      {going : Bool}
      {state next : State σ}
      (visited : Retries engine console begun true state)
      (answers : engine.step console state = .ok going next) :
      Retries engine console begun going next
  | again
      {failure : Failure}
      {state next : State σ}
      (visited : Retries engine console begun true state)
      (io : failure.isIo = true)
      (raised : engine.step console state = .error failure next) :
      Retries engine console begun true next

/--
How stepping on a script, where a step is made again after a failure of the console,
compares with stepping on the mended script, both from one machine, place and output.
-/
structure RetriesLikeMended
    {τ : Type}
    (engine : Engine)
    (script : Script)
    (write : UInt8 → τ → τ)
    (origin : Machine)
    (begun : Place × τ)
    (notices : Array Notice) :
    Prop where
  /-- Every state on the way has a machine, and nothing is noted on the way. -/
  held : ∀ going state,
    engine.Retries (script.console write) (.ofMachine origin begun notices) going state →
      ∃ machine, state = .ofMachine machine state.channel notices
  /--
  Both come through the same machines, each behind the same answers and with the same
  output, and both end there or go on.
  -/
  visits : ∀ going machine given output,
    (∃ pending, engine.Retries (script.console write) (.ofMachine origin begun notices) going
      (.ofMachine machine (⟨pending, given⟩, output) notices)) ↔
      engine.ByHand (script.mended.console write) (.ofMachine origin (settle begun) notices)
        going (.ofMachine machine (⟨[], given⟩, output) notices)
  /-- What else a step raises, it raises on both, in the same state. -/
  raises : ∀ failure machine given output, failure.isIo = false →
    ((∃ pending, engine.Retries (script.console write) (.ofMachine origin begun notices) true
        (.ofMachine machine (⟨pending, given⟩, output) notices) ∧
      engine.step (script.console write)
          (.ofMachine machine (⟨pending, given⟩, output) notices) =
        .error failure (.ofMachine machine (⟨pending, given⟩, output) notices)) ↔
      engine.ByHand (script.mended.console write) (.ofMachine origin (settle begun) notices)
          true (.ofMachine machine (⟨[], given⟩, output) notices) ∧
        engine.step (script.mended.console write)
            (.ofMachine machine (⟨[], given⟩, output) notices) =
          .error failure (.ofMachine machine (⟨[], given⟩, output) notices))
  /-- On the mended script, no step fails because of the console. -/
  mends : ∀ failure machine given output left,
    engine.step (script.mended.console write)
        (.ofMachine machine (⟨[], given⟩, output) notices) =
      .error failure left → failure.isIo = false

/-- How an engine takes steps that fail. -/
structure TakesRetries (engine : Engine) : Prop where
  /-- A step that fails leaves all of the state as it was but the console. -/
  atomic : ∀ {σ : Type} (console : Console σ) (state left : State σ) (failure : Failure),
    state.tape.isSome = true →
      engine.step console state = .error failure left →
        left = { state with channel := left.channel }
  /-- Where the console is not to blame, it is left as it was as well. -/
  untouched : ∀ {σ : Type} (console : Console σ) (state left : State σ) (failure : Failure),
    state.tape.isSome = true →
      engine.step console state = .error failure left →
        failure.isIo = false →
          left = state
  /-- Without a tape, the first step is one on a fresh tape. -/
  first : ∀ {σ : Type} (console : Console σ) (state : State σ) (tape : Array UInt8),
    state.tape = none →
      engine.host.newTape? engine.tapeSize = some tape →
        engine.step console state =
          engine.step console (.ofMachine (.start tape) state.channel state.notices)
  /-- Steps that are made again compare with those on the mended script. -/
  retries : ∀ {τ : Type} (script : Script) (write : UInt8 → τ → τ) (origin : Machine)
    (begun : Place × τ) (notices : Array Notice),
    engine.RetriesLikeMended script write origin begun notices

/-! A step that fails. -/

section

variable
  {σ : Type}
  {engine : Engine}
  {console : Console σ}
  {machine : Machine}
  {channel : σ}
  {notices : Array Notice}
  {state left : State σ}
  {failure : Failure}

theorem exists_ofMachine_of_tape (held : state.tape.isSome = true) :
    ∃ machine, state = .ofMachine machine state.channel state.notices := by
  obtain ⟨tape, pointer, pc, steps, channel, notices⟩ := state
  cases tape with
  | none =>
      cases held
  | some cells =>
      exact ⟨⟨cells, pointer, pc, steps⟩, rfl⟩

/-- A step that succeeds leaves a machine. -/
theorem exists_ofMachine_of_step
    {going : Bool}
    (answers :
      engine.step console (.ofMachine machine channel notices) = .ok going left) :
    ∃ next nextChannel, left = .ofMachine next nextChannel notices := by
  rw [step_ofMachine] at answers
  rcases engine.stepFrom_cases console machine channel notices with
    ⟨_, ends⟩ | ⟨_, next, nextChannel, _, goesOn⟩ | ⟨_, _, _, _, _, fails⟩
  · rw [ends] at answers
    cases answers
    exact ⟨machine, channel, rfl⟩
  · rw [goesOn] at answers
    cases answers
    exact ⟨next, nextChannel, rfl⟩
  · rw [fails] at answers
    cases answers

/-- A step of an engine that fails breaks down in its machine, and leaves it as it was. -/
theorem breakdown_of_step_eq_error
    (fails : engine.step console (.ofMachine machine channel notices) = .error failure left) :
    machine.isPast engine.program = false ∧
      ∃ nextChannel,
        left = .ofMachine machine nextChannel notices ∧
          Machine.Breakdown console engine.program engine.table machine channel failure
            nextChannel := by
  obtain ⟨going, next, nextChannel, stepped, rfl⟩ := step_of_step_eq_error fails
  obtain ⟨rfl, breakdown⟩ := Machine.breakdown_of_step_eq stepped
  exact ⟨going, nextChannel, rfl, breakdown⟩

theorem eq_of_step_eq_error
    (fails : engine.step console (.ofMachine machine channel notices) = .error failure left)
    (otherwise : failure.isIo = false) :
    left = .ofMachine machine channel notices := by
  obtain ⟨_, nextChannel, rfl, breakdown⟩ := breakdown_of_step_eq_error fails
  rw [breakdown.channel_eq otherwise]

end

/-! Steps on a script and on the mended script. -/

variable
  {τ : Type}
  {engine : Engine}
  {script : Script}
  {write : UInt8 → τ → τ}
  {origin machine : Machine}
  {begun channel : Place × τ}
  {notices : Array Notice}
  {state left : State (Place × τ)}
  {failure : Failure}
  {going : Bool}

/-- The state with its console in front of the next answer. -/
def State.settled (state : State (Place × τ)) : State (Place × τ) :=
  { state with channel := settle state.channel }

/-- What a call answers, with the console in front of the next answer. -/
def settledResult
    {α : Type} :
    EStateM.Result Failure (State (Place × τ)) α → EStateM.Result Failure (State (Place × τ)) α
  | .ok answer left => .ok answer left.settled
  | .error failure left => .error failure left.settled

/-- Where no failure comes first, a step does the same on the mended script. -/
theorem step_settled
    (served :
      engine.program.opcodeAt? machine.pc = some .input → channel.1.pending = [])
    (notices : Array Notice) :
    engine.step (script.mended.console write) (.ofMachine machine (settle channel) notices) =
      settledResult
        (engine.step (script.console write) (.ofMachine machine channel notices)) := by
  have alike := (Script.answersAlike_settle script write served).step_eq engine.table
  simp only [step_ofMachine, stepFrom, alike]
  split
  · rfl
  · cases stepped : machine.step (script.console write) engine.program engine.table channel with
    | mk failure next nextChannel =>
        cases failure <;> rfl

/-- A step that does not fail because of the console does the same on the mended script. -/
theorem step_settled_of_served
    (served : ∀ failure left,
      engine.step (script.console write) (.ofMachine machine channel notices) =
        .error failure left → failure.isIo = false) :
    engine.step (script.mended.console write) (.ofMachine machine (settle channel) notices) =
      settledResult
        (engine.step (script.console write) (.ofMachine machine channel notices)) := by
  cases past : machine.isPast engine.program with
  | true =>
      rw [step_ofMachine_of_isPast past, step_ofMachine_of_isPast past]
      rfl
  | false =>
      refine step_settled (fun found => ?_) notices
      cases pending : channel.1.pending with
      | nil =>
          rfl
      | cons cause rest =>
          have fails := Script.step_of_pending script write found pending engine.table
          cases served _ _ (step_ofMachine_of_failure past fails notices)

theorem step_settled_of_ok
    (answers :
      engine.step (script.console write) (.ofMachine machine channel notices) =
        .ok going left) :
    engine.step (script.mended.console write) (.ofMachine machine (settle channel) notices) =
      .ok going left.settled := by
  rw [step_settled_of_served, answers]
  · rfl
  · intro failure left raised
    rw [answers] at raised
    cases raised

theorem step_settled_of_error
    (otherwise : failure.isIo = false)
    (raised :
      engine.step (script.console write) (.ofMachine machine channel notices) =
        .error failure left) :
    engine.step (script.mended.console write) (.ofMachine machine (settle channel) notices) =
      .error failure left.settled := by
  rw [step_settled_of_served, raised]
  · rfl
  · intro other _ same
    rw [raised] at same
    cases same
    exact otherwise

/-- On a mended script, a step does not fail because of the console. -/
theorem isIo_of_mended
    (settled : channel.1.pending = [])
    (raised :
      engine.step (script.mended.console write) (.ofMachine machine channel notices) =
        .error failure left) :
    failure.isIo = false := by
  obtain ⟨_, next, nextChannel, stepped, _⟩ := step_of_step_eq_error raised
  cases io : failure.isIo with
  | false =>
      rfl
  | true =>
      obtain ⟨_, _, _, _, pending, _⟩ := Script.pending_of_step_eq stepped io
      rw [settled] at pending
      cases pending

/-- What a step raises on the mended script, it raises on the script and leaves all as it was. -/
theorem step_of_settledResult
    (otherwise : failure.isIo = false)
    (raised :
      settledResult
          (engine.step (script.console write) (.ofMachine machine channel notices)) =
        .error failure left) :
    engine.step (script.console write) (.ofMachine machine channel notices) =
      .error failure (.ofMachine machine channel notices) := by
  cases stepped :
      engine.step (script.console write) (.ofMachine machine channel notices) with
  | ok =>
      rw [stepped] at raised
      cases raised
  | error other behind =>
      rw [stepped] at raised
      cases raised
      rw [eq_of_step_eq_error stepped otherwise]

/-- Steps that are made again are steps on the mended script. -/
theorem Retries.byHand
    (retries :
      engine.Retries (script.console write) (.ofMachine origin begun notices) going state) :
    ∃ machine channel,
      state = .ofMachine machine channel notices ∧
        engine.ByHand (script.mended.console write) (.ofMachine origin (settle begun) notices)
          going (.ofMachine machine (settle channel) notices) := by
  induction retries with
  | begun =>
      exact ⟨origin, begun, rfl, .begun⟩
  | step _ answers inductionHypothesis =>
      obtain ⟨machine, channel, rfl, byHand⟩ := inductionHypothesis
      obtain ⟨next, nextChannel, rfl⟩ := exists_ofMachine_of_step answers
      have settled := step_settled_of_ok answers
      exact ⟨next, nextChannel, rfl, .step byHand settled⟩
  | again _ io raised inductionHypothesis =>
      -- A failure of the script is passed, which the mended script does not have.
      obtain ⟨machine, channel, rfl, byHand⟩ := inductionHypothesis
      obtain ⟨_, next, nextChannel, stepped, rfl⟩ := step_of_step_eq_error raised
      obtain ⟨rfl, _, _, _, _, rfl⟩ := Script.pending_of_step_eq stepped io
      exact ⟨_, _, rfl, byHand⟩

/-- Making a step again passes all failures in front of the answer that it needs. -/
theorem Retries.exists_served
    (unfinished : machine.isPast engine.program = false)
    (retries :
      engine.Retries (script.console write) (.ofMachine origin begun notices) true
        (.ofMachine machine channel notices)) :
    ∃ nextChannel,
      settle nextChannel = settle channel ∧
        engine.Retries (script.console write) (.ofMachine origin begun notices) true
          (.ofMachine machine nextChannel notices) ∧
        (engine.program.opcodeAt? machine.pc = some .input → nextChannel.1.pending = []) := by
  by_cases found : engine.program.opcodeAt? machine.pc = some .input
  · obtain ⟨⟨pending, given⟩, output⟩ := channel
    induction pending with
    | nil =>
        exact ⟨_, rfl, retries, fun _ => rfl⟩
    | cons cause rest inductionHypothesis =>
        let channel : Place × τ := (⟨cause :: rest, given⟩, output)
        have stuck : channel.1.pending = cause :: rest := rfl
        have fails := Script.step_of_pending script write found stuck engine.table
        have raised := step_ofMachine_of_failure unfinished fails notices
        exact inductionHypothesis (.again retries rfl raised)
  · exact ⟨channel, rfl, retries, fun needed => absurd needed found⟩

/-- A step on the mended script is made on the script, after the failures in front of it. -/
theorem Retries.exists_step
    (retries :
      engine.Retries (script.console write) (.ofMachine origin begun notices) true
        (.ofMachine machine channel notices)) :
    ∃ nextChannel,
      settle nextChannel = settle channel ∧
        engine.Retries (script.console write) (.ofMachine origin begun notices) true
          (.ofMachine machine nextChannel notices) ∧
        engine.step (script.mended.console write)
            (.ofMachine machine (settle channel) notices) =
          settledResult
            (engine.step (script.console write) (.ofMachine machine nextChannel notices)) := by
  cases past : machine.isPast engine.program with
  | true =>
      refine ⟨channel, rfl, retries, ?_⟩
      rw [step_ofMachine_of_isPast past, step_ofMachine_of_isPast past]
      rfl
  | false =>
      obtain ⟨nextChannel, same, reached, served⟩ := retries.exists_served past
      refine ⟨nextChannel, same, reached, ?_⟩
      rw [← same]
      exact step_settled served notices

/-- Steps on the mended script are ones on the script, where some are made again. -/
theorem ByHand.exists_retries
    (byHand :
      engine.ByHand (script.mended.console write) (.ofMachine origin (settle begun) notices)
        going state) :
    ∃ machine channel,
      state = .ofMachine machine (settle channel) notices ∧
        engine.Retries (script.console write) (.ofMachine origin begun notices) going
          (.ofMachine machine channel notices) := by
  induction byHand with
  | begun =>
      exact ⟨origin, begun, rfl, .begun⟩
  | step _ answers inductionHypothesis =>
      obtain ⟨machine, channel, rfl, retries⟩ := inductionHypothesis
      obtain ⟨nextChannel, _, reached, same⟩ := retries.exists_step
      rw [same] at answers
      cases stepped :
          engine.step (script.console write) (.ofMachine machine nextChannel notices) with
      | error =>
          rw [stepped] at answers
          cases answers
      | ok going next =>
          rw [stepped] at answers
          cases answers
          have visited := Retries.step reached stepped
          obtain ⟨last, lastChannel, rfl, _⟩ := visited.byHand
          exact ⟨last, lastChannel, rfl, visited⟩

/-- Stepping on a script, where steps are made again, compares with the mended script. -/
theorem retriesLikeMended
    (engine : Engine)
    (script : Script)
    (write : UInt8 → τ → τ)
    (origin : Machine)
    (begun : Place × τ)
    (notices : Array Notice) :
    engine.RetriesLikeMended script write origin begun notices where
  held going state retries := by
    obtain ⟨machine, channel, rfl, _⟩ := retries.byHand
    exact ⟨machine, rfl⟩
  visits going machine given output := by
    constructor
    · rintro ⟨pending, retries⟩
      obtain ⟨_, _, same, byHand⟩ := retries.byHand
      obtain ⟨rfl, rfl⟩ := State.ofMachine_injective same
      exact byHand
    · intro byHand
      obtain ⟨_, channel, same, retries⟩ := byHand.exists_retries
      obtain ⟨rfl, settled⟩ := State.ofMachine_injective same
      obtain ⟨⟨pending, _⟩, _⟩ := channel
      cases settled
      exact ⟨pending, retries⟩
  raises failure machine given output otherwise := by
    constructor
    · rintro ⟨pending, retries, raised⟩
      obtain ⟨_, _, same, byHand⟩ := retries.byHand
      obtain ⟨rfl, rfl⟩ := State.ofMachine_injective same
      exact ⟨byHand, step_settled_of_error otherwise raised⟩
    · rintro ⟨byHand, raised⟩
      obtain ⟨_, channel, same, retries⟩ := byHand.exists_retries
      obtain ⟨rfl, settled⟩ := State.ofMachine_injective same
      obtain ⟨⟨⟨pending, _⟩, _⟩, passed, reached, stepped⟩ := retries.exists_step
      rw [← passed] at settled
      cases settled
      refine ⟨pending, reached, ?_⟩
      rw [← passed] at stepped
      exact step_of_settledResult otherwise (stepped.symm.trans raised)
  mends failure machine given output left raised :=
    isIo_of_mended rfl raised

/-- Every engine takes steps that fail without any change, so that they may be made again. -/
theorem takesRetries (engine : Engine) : engine.TakesRetries where
  atomic console state left failure held fails := by
    obtain ⟨machine, same⟩ := exists_ofMachine_of_tape held
    rw [same] at fails ⊢
    obtain ⟨_, nextChannel, rfl, _⟩ := breakdown_of_step_eq_error fails
    rfl
  untouched console state left failure held fails otherwise := by
    obtain ⟨machine, same⟩ := exists_ofMachine_of_tape held
    rw [same] at fails ⊢
    exact eq_of_step_eq_error fails otherwise
  first console state tape absent granted := by
    obtain ⟨_, pointer, pc, steps, channel, notices⟩ := state
    cases absent
    simp only [step, granted]
    rfl
  retries script write origin begun notices :=
    engine.retriesLikeMended script write origin begun notices

end Brainfuck.Engine
