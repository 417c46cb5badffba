import Brainfuck.Console.Output
import Brainfuck.Proofs.Engine.Course
import Brainfuck.Proofs.Machine.Checked
import Brainfuck.Proofs.Program.Loaded

namespace Brainfuck.Engine

/-!
# Staying on the tape

Whatever is called on an engine in whatever order, the pointer stays on the tape
and the address in the program, during a run and between two calls.  No index
that a batch or a step uses is outside its array, and the moves that would leave
the tape are exactly those that are reported.
-/

/-- A call on an engine; the fuel bounds a run. -/
inductive Call where
  | start
  | step
  | run (fuel : Nat)
  | snapshot
  deriving Repr, DecidableEq

variable {σ : Type}

/-- The state in which a call leaves an engine. -/
def Call.leave
    (engine : Engine)
    (console : Console σ)
    (call : Call)
    (state : State σ) :
    State σ :=
  match call with
  | .start => leftBy (engine.start state)
  | .step => leftBy (engine.step console state)
  | .run fuel => leftBy (engine.run console fuel state)
  | .snapshot => leftBy (Engine.snapshot state)

/-- The state in which a sequence of calls leaves an engine, whether they fail or not. -/
def afterCalls
    (engine : Engine)
    (console : Console σ)
    (calls : List Call)
    (state : State σ) :
    State σ :=
  calls.foldl (fun left call => call.leave engine console left) state

/-- The machine of a state, if it has a tape. -/
def State.machine? (state : State σ) : Option Machine :=
  state.tape.map fun tape => ⟨tape, state.pointer, state.pc, state.steps⟩

/-- The machine on which a step works: that of the state, or else one on a fresh tape. -/
def machineAt?
    (engine : Engine)
    (state : State σ) :
    Option Machine :=
  match state.machine? with
  | some machine => some machine
  | none => (engine.host.newTape? engine.tapeSize).map Machine.start

/--
Whether an engine has a machine at some time: between two calls, or while a run
is going on.
-/
inductive Occurs
    (engine : Engine)
    (console : Console σ)
    (origin : State σ) :
    Machine → σ → Prop where
  | held
      (calls : List Call)
      {machine : Machine}
      (held : (engine.afterCalls console calls origin).machine? = some machine) :
      Occurs engine console origin machine (engine.afterCalls console calls origin).channel
  | running
      (calls : List Call)
      {machine : Machine}
      {channel : σ}
      (passes :
        engine.RunPasses console (engine.afterCalls console calls origin) machine channel) :
      Occurs engine console origin machine channel

/-- Whether the next word would move the pointer off a tape, and how this is reported. -/
inductive LeavesTape
    (program : Program)
    (cells : Nat)
    (source : String)
    (machine : Machine) :
    BoundsFault → Prop where
  | right
      (found : program.opcodeAt? machine.pc = some .moveRight)
      (edge : machine.pointer + 1 = cells) :
      LeavesTape program cells source machine
        { address := machine.pc, pointer := cells, tapeSize := cells, source }
  | left
      (found : program.opcodeAt? machine.pc = some .moveLeft)
      (edge : machine.pointer = 0) :
      LeavesTape program cells source machine
        { address := machine.pc, pointer := -1, tapeSize := cells, source }

/-- What holds of every machine that an engine has, from its making on. -/
structure StaysOnTape
    (engine : Engine)
    (console : Console σ)
    (channel : σ)
    (source : String) :
    Prop where
  /-- The tape keeps its size, its cells are bytes, and pointer and address stay inside. -/
  contained : ∀ machine other, engine.Occurs console (.initial channel) machine other →
    machine.tape.size = engine.tapeSize ∧
      (∀ cell ∈ machine.tape, cell.toNat ≤ 255) ∧
      machine.pointer < engine.tapeSize ∧
      0 ≤ machine.pc ∧
      machine.pc ≤ engine.program.size
  /-- A batch from there uses no index outside its array. -/
  batches : ∀ machine other, engine.Occurs console (.initial channel) machine other →
    ∀ limit,
      Machine.checkedBatch engine.program engine.table limit machine =
        some (Machine.runBatch engine.program engine.table limit machine)
  /-- A step from there uses no index outside its array. -/
  steps : ∀ machine other, engine.Occurs console (.initial channel) machine other →
    machine.isPast engine.program = false →
      Machine.checkedStep console engine.program engine.table machine other =
        some (machine.step console engine.program engine.table other)
  /-- A step reports the pointer exactly when the next word would move it off the tape. -/
  stepFaults : ∀ calls fault,
    (∃ left,
      engine.step console (engine.afterCalls console calls (.initial channel)) =
        .error (.tapeBounds fault) left) ↔
      ∃ machine,
        engine.machineAt? (engine.afterCalls console calls (.initial channel)) = some machine ∧
          LeavesTape engine.program engine.tapeSize source machine fault
  /-- A run reports the pointer exactly when it comes to such a word. -/
  runFaults : ∀ calls fault,
    (∃ left,
      engine.Concludes console (engine.afterCalls console calls (.initial channel))
        (.error (.tapeBounds fault)) left) ↔
      ∃ machine other,
        engine.RunPasses console (engine.afterCalls console calls (.initial channel)) machine
            other ∧
          LeavesTape engine.program engine.tapeSize source machine fault

variable
  {engine : Engine}
  {console : Console σ}
  {state : State σ}
  {machine : Machine}
  {channel : σ}
  {tape : Array UInt8}

theorem newTape?_of_grantsTape
    {host : Host}
    {cells : Nat}
    (granted : host.grantsTape cells = true) :
    host.newTape? cells = some (Array.replicate cells 0) :=
  if_pos granted

theorem eq_replicate_of_newTape?
    {host : Host}
    {cells : Nat}
    (granted : host.newTape? cells = some tape) :
    tape = Array.replicate cells 0 := by
  unfold Host.newTape? at granted
  split at granted
  · cases granted
    rfl
  · cases granted

/-- Whether the machine of a state, if there is one, fits the program of an engine. -/
def State.Fits
    (state : State σ)
    (engine : Engine) :
    Prop :=
  ∀ machine, state.machine? = some machine →
    machine.Fits engine.program engine.tapeSize

theorem State.fits_initial
    (engine : Engine)
    (channel : σ) :
    (State.initial channel).Fits engine := by
  intro machine held
  cases held

theorem State.fits_ofMachine
    (fits : machine.Fits engine.program engine.tapeSize)
    (channel : σ)
    (notices : Array Notice) :
    (State.ofMachine machine channel notices).Fits engine := by
  intro other same
  cases same
  exact fits

/-- A step works on the machine of the state, or else on one with a fresh tape. -/
theorem step_eq_stepFrom
    (console : Console σ)
    (works : engine.machineAt? state = some machine) :
    engine.step console state =
      engine.stepFrom console machine state.channel state.notices := by
  obtain ⟨held, pointer, pc, steps, channel, notices⟩ := state
  cases held with
  | some tape =>
      cases works
      rfl
  | none =>
      obtain ⟨tape, granted, rfl⟩ := Option.map_eq_some_iff.mp works
      unfold step
      simp only [granted]

/-- A step finds its machine past the end, or does what its machine does with the next word. -/
theorem stepFrom_cases
    (engine : Engine)
    (console : Console σ)
    (machine : Machine)
    (channel : σ)
    (notices : Array Notice) :
    (machine.isPast engine.program = true ∧
      engine.stepFrom console machine channel notices =
        .ok false (.ofMachine machine channel notices)) ∨
    (machine.isPast engine.program = false ∧
      ∃ next nextChannel,
        machine.step console engine.program engine.table channel =
            ⟨none, next, nextChannel⟩ ∧
          engine.stepFrom console machine channel notices =
            .ok (!next.isPast engine.program) (.ofMachine next nextChannel notices)) ∨
    (machine.isPast engine.program = false ∧
      ∃ failure next nextChannel,
        machine.step console engine.program engine.table channel =
            ⟨some failure, next, nextChannel⟩ ∧
          engine.stepFrom console machine channel notices =
            .error failure (.ofMachine next nextChannel notices)) := by
  unfold stepFrom
  cases past : machine.isPast engine.program with
  | true =>
      exact .inl ⟨rfl, rfl⟩
  | false =>
      right
      cases machine.step console engine.program engine.table channel with
      | mk failure? next nextChannel =>
          cases failure? with
          | none =>
              exact .inl ⟨rfl, next, nextChannel, rfl, rfl⟩
          | some failure =>
              exact .inr ⟨rfl, failure, next, nextChannel, rfl, rfl⟩

/-- A step without a machine to work on is refused and changes nothing. -/
theorem step_of_refused
    (console : Console σ)
    (refused : engine.machineAt? state = none) :
    engine.step console state = .error (.tapeTooLarge engine.tapeSize) state := by
  obtain ⟨held, pointer, pc, steps, channel, notices⟩ := state
  cases held with
  | some tape =>
      cases refused
  | none =>
      have denied := Option.map_eq_none_iff.mp refused
      unfold step
      simp only [denied]

theorem leftBy_start
    (engine : Engine)
    (state : State σ) :
    leftBy (engine.start state) = state ∨
      ∃ tape, engine.host.newTape? engine.tapeSize = some tape ∧
        leftBy (engine.start state) = .ofMachine (.start tape) state.channel state.notices := by
  unfold start
  cases granted : engine.host.newTape? engine.tapeSize with
  | none =>
      exact .inl rfl
  | some tape =>
      exact .inr ⟨tape, rfl, rfl⟩

theorem leftBy_snapshot (state : State σ) :
    leftBy (snapshot state) = state := by
  obtain ⟨held, pointer, pc, steps, channel, notices⟩ := state
  cases held <;> rfl

/-- A run gives up its tape. -/
theorem leftBy_run
    (engine : Engine)
    (console : Console σ)
    (fuel : Nat)
    (state : State σ) :
    leftBy (engine.run console fuel state) = state ∨
      (leftBy (engine.run console fuel state)).machine? = none := by
  cases granted : engine.host.newTape? engine.tapeSize with
  | none =>
      left
      unfold run
      rw [granted]
      rfl
  | some tape =>
      right
      rw [leftBy_run_of_granted granted]
      rfl

section

variable
  (cells : 0 < engine.tapeSize)

include cells

theorem fits_start (granted : engine.host.newTape? engine.tapeSize = some tape) :
    (Machine.start tape).Fits engine.program engine.tapeSize := by
  rw [eq_replicate_of_newTape? granted]
  exact .start engine.program cells

theorem fits_machineAt?
    (fits : state.Fits engine)
    (works : engine.machineAt? state = some machine) :
    machine.Fits engine.program engine.tapeSize := by
  unfold machineAt? at works
  cases held : state.machine? with
  | some other =>
      rw [held] at works
      cases works
      exact fits machine held
  | none =>
      rw [held] at works
      obtain ⟨tape, granted, rfl⟩ := Option.map_eq_some_iff.mp works
      exact fits_start cells granted

variable (matching : engine.table.Matches engine.program)

include matching

omit cells in
theorem fits_stepFrom
    (fits : machine.Fits engine.program engine.tapeSize)
    (console : Console σ)
    (channel : σ)
    (notices : Array Notice) :
    (leftBy (engine.stepFrom console machine channel notices)).Fits engine := by
  rcases engine.stepFrom_cases console machine channel notices with
    ⟨_, ends⟩ | ⟨going, next, nextChannel, stepped, goesOn⟩ |
    ⟨going, failure, next, nextChannel, stepped, fails⟩
  · rw [ends]
    exact State.fits_ofMachine fits channel notices
  · rw [goesOn]
    exact State.fits_ofMachine (fits.step matching going stepped) nextChannel notices
  · rw [fails]
    exact State.fits_ofMachine (fits.step matching going stepped) nextChannel notices

/-- No call leaves an engine with a machine that does not fit its program. -/
theorem fits_leave
    (fits : state.Fits engine)
    (console : Console σ)
    (call : Call) :
    (call.leave engine console state).Fits engine := by
  cases call with
  | start =>
      simp only [Call.leave]
      rcases leftBy_start engine state with same | ⟨tape, granted, fresh⟩
      · rw [same]
        exact fits
      · rw [fresh]
        exact State.fits_ofMachine (fits_start cells granted) _ _
  | step =>
      simp only [Call.leave]
      cases works : engine.machineAt? state with
      | none =>
          rw [step_of_refused console works]
          exact fits
      | some machine =>
          rw [step_eq_stepFrom console works]
          exact fits_stepFrom matching (fits_machineAt? cells fits works) console _ _
  | run fuel =>
      simp only [Call.leave]
      rcases leftBy_run engine console fuel state with same | released
      · rw [same]
        exact fits
      · intro machine held
        rw [released] at held
        cases held
  | snapshot =>
      simp only [Call.leave]
      rw [leftBy_snapshot]
      exact fits

theorem fits_afterCalls
    (fits : state.Fits engine)
    (console : Console σ)
    (calls : List Call) :
    (engine.afterCalls console calls state).Fits engine := by
  induction calls generalizing state with
  | nil =>
      exact fits
  | cons call rest inductionHypothesis =>
      exact inductionHypothesis (fits_leave cells matching fits console call)

theorem fits_runPasses
    (positive : 0 < engine.batchSteps)
    (passes : engine.RunPasses console state machine channel) :
    machine.Fits engine.program engine.tapeSize := by
  have granted := passes
  obtain ⟨tape, granted, _⟩ := granted
  obtain ⟨count, path⟩ := (runPasses_iff_path positive matching.serves granted).mp passes
  exact path.fits matching (fits_start cells granted)

/-- A machine that occurs fits the program. -/
theorem fits_of_occurs
    (positive : 0 < engine.batchSteps)
    {origin : σ}
    (occurs : engine.Occurs console (.initial origin) machine channel) :
    machine.Fits engine.program engine.tapeSize := by
  cases occurs with
  | held calls held =>
      have fits := fits_afterCalls cells matching (State.fits_initial engine origin) console calls
      exact fits machine held
  | running calls passes =>
      exact fits_runPasses cells matching positive passes

end

/-- A step raises what it meets as an obstacle, and keeps its machine. -/
theorem stepFrom_eq_error_iff
    {failure : Failure}
    {left : State σ}
    {notices : Array Notice}
    (matching : engine.table.Matches engine.program)
    (fits : machine.Fits engine.program engine.tapeSize) :
    engine.stepFrom console machine channel notices = .error failure left ↔
      ∃ next, Machine.Obstacle console engine.program machine channel failure next ∧
        left = .ofMachine machine next notices := by
  constructor
  · intro fails
    rcases engine.stepFrom_cases console machine channel notices with
      ⟨_, ends⟩ | ⟨_, _, _, _, goesOn⟩ | ⟨going, other, next, nextChannel, stepped, raised⟩
    · rw [ends] at fails
      cases fails
    · rw [goesOn] at fails
      cases fails
    · rw [raised] at fails
      cases fails
      obtain ⟨rfl, obstacle⟩ := (fits.step_eq_failure_iff matching going).mp stepped
      exact ⟨nextChannel, obstacle, rfl⟩
  · rintro ⟨next, obstacle, rfl⟩
    unfold stepFrom
    rw [obstacle.going fits.standing, obstacle.step_eq fits.standing]
    rfl

/-- A run raises a failure exactly when it comes to it as an obstacle. -/
theorem concludes_error_iff_obstacle
    {failure : Failure}
    {left : State σ}
    (matching : engine.table.Matches engine.program)
    (cells : 0 < engine.tapeSize)
    (granted : engine.host.newTape? engine.tapeSize = some tape)
    (positive : 0 < engine.batchSteps) :
    engine.Concludes console state (.error failure) left ↔
      ∃ machine other next,
        left = .behind machine next ∧
          engine.RunPasses console state machine other ∧
            Machine.Obstacle console engine.program machine other failure next := by
  constructor
  · intro concludes
    obtain ⟨count, last, next, rfl, ends⟩ :=
      (concludes_error_iff positive matching.serves granted).mp concludes
    cases ends with
    | failed path going fails =>
        have fits := path.fits matching (fits_start cells granted)
        obtain ⟨rfl, obstacle⟩ := (fits.step_eq_failure_iff matching going).mp fails
        have passes := (runPasses_iff_path positive matching.serves granted).mpr ⟨count, path⟩
        exact ⟨last, _, next, rfl, passes, obstacle⟩
  · rintro ⟨machine, other, next, rfl, passes, obstacle⟩
    exact concludes_of_obstacle positive matching.serves granted passes obstacle

/-- The obstacles that are reported as such are the moves that would leave the tape. -/
theorem obstacle_tapeBounds_iff
    {source : String}
    {fault : BoundsFault}
    {next : σ}
    (shown : engine.program.toSource = .ok source)
    (fits : machine.Fits engine.program engine.tapeSize) :
    Machine.Obstacle console engine.program machine channel (.tapeBounds fault) next ↔
      next = channel ∧ LeavesTape engine.program engine.tapeSize source machine fault := by
  have reported (attempted : Int) :
      Machine.boundsFailure engine.program machine.pc attempted machine.tape.size =
        .tapeBounds
          { address := machine.pc, pointer := attempted, tapeSize := engine.tapeSize, source } := by
    simp only [Machine.boundsFailure, shown, fits.tapeSize]
  constructor
  · intro obstacle
    generalize failed : Failure.tapeBounds fault = failure at obstacle
    have onTape := fits.pointer
    cases obstacle with
    | input | output =>
        cases failed
    | rightEdge found edge =>
        rw [reported] at failed
        cases failed
        rw [fits.tapeSize] at edge
        have atEnd : machine.pointer + 1 = engine.tapeSize := by omega
        have attempted : (machine.pointer : Int) + 1 = engine.tapeSize := by omega
        rw [attempted]
        exact ⟨rfl, .right found atEnd⟩
    | leftEdge found edge =>
        rw [reported] at failed
        cases failed
        exact ⟨rfl, .left found edge⟩
  · rintro ⟨rfl, leaves⟩
    cases leaves with
    | right found edge =>
        have attempted : (machine.pointer : Int) + 1 = engine.tapeSize := by omega
        have obstacle : Machine.Obstacle console engine.program machine next _ next :=
          .rightEdge found (by rw [fits.tapeSize]; omega)
        rw [reported, attempted] at obstacle
        exact obstacle
    | left found edge =>
        have obstacle : Machine.Obstacle console engine.program machine next _ next :=
          .leftEdge found edge
        rw [reported] at obstacle
        exact obstacle

section

variable
  {source : String}
  {fault : BoundsFault}
  (shown : engine.program.toSource = .ok source)
  (matching : engine.table.Matches engine.program)
  (cells : 0 < engine.tapeSize)
  (granted : engine.host.newTape? engine.tapeSize = some tape)

include shown matching cells granted

theorem step_tapeBounds_iff
    (fits : state.Fits engine)
    (console : Console σ) :
    (∃ left, engine.step console state = .error (.tapeBounds fault) left) ↔
      ∃ machine, engine.machineAt? state = some machine ∧
        LeavesTape engine.program engine.tapeSize source machine fault := by
  obtain ⟨machine, works⟩ : ∃ machine, engine.machineAt? state = some machine := by
    unfold machineAt?
    cases state.machine? with
    | none =>
        exact ⟨.start tape, by rw [granted]; rfl⟩
    | some machine =>
        exact ⟨machine, rfl⟩
  have machineFits := fits_machineAt? cells fits works
  rw [step_eq_stepFrom console works]
  constructor
  · rintro ⟨left, fails⟩
    obtain ⟨next, obstacle, _⟩ := (stepFrom_eq_error_iff matching machineFits).mp fails
    exact ⟨machine, works, ((obstacle_tapeBounds_iff shown machineFits).mp obstacle).2⟩
  · rintro ⟨other, same, leaves⟩
    rw [works] at same
    cases same
    have obstacle :
        Machine.Obstacle console engine.program machine state.channel (.tapeBounds fault)
          state.channel :=
      (obstacle_tapeBounds_iff shown machineFits).mpr ⟨rfl, leaves⟩
    exact ⟨_, (stepFrom_eq_error_iff matching machineFits).mpr ⟨_, obstacle, rfl⟩⟩

theorem concludes_tapeBounds_iff
    {left : State σ}
    (positive : 0 < engine.batchSteps) :
    engine.Concludes console state (.error (.tapeBounds fault)) left ↔
      ∃ machine other, left = .behind machine other ∧
        engine.RunPasses console state machine other ∧
          LeavesTape engine.program engine.tapeSize source machine fault := by
  rw [concludes_error_iff_obstacle matching cells granted positive]
  constructor
  · rintro ⟨machine, other, next, rfl, passes, obstacle⟩
    have fits := fits_runPasses cells matching positive passes
    obtain ⟨rfl, leaves⟩ := (obstacle_tapeBounds_iff shown fits).mp obstacle
    exact ⟨machine, next, rfl, passes, leaves⟩
  · rintro ⟨machine, other, rfl, passes, leaves⟩
    have fits := fits_runPasses cells matching positive passes
    exact ⟨machine, other, other, rfl, passes,
      (obstacle_tapeBounds_iff shown fits).mpr ⟨rfl, leaves⟩⟩

end

/--
Whatever an engine for a loaded program is called on, whatever it talks to and
however it works, it stays on its tape and uses no index outside its arrays.
-/
theorem staysOnTape_of_isLoaded
    (engine : Engine)
    (loaded : engine.program.IsLoaded)
    (resolved : engine.program.resolveLoops = .ok engine.table)
    (cells : 0 < engine.tapeSize)
    (granted : engine.host.grantsTape engine.tapeSize = true)
    (positive : 0 < engine.batchSteps)
    (console : Console σ)
    (channel : σ) :
    ∃ source, engine.program.toSource = .ok source ∧
      engine.StaysOnTape console channel source := by
  obtain ⟨source, shown⟩ := loaded.exists_toSource
  obtain ⟨_, matching⟩ := Program.matches_of_resolveLoops resolved
  have fresh := newTape?_of_grantsTape granted
  have unused : (State.initial channel).Fits engine := by
    intro machine held
    cases held
  have fits {machine : Machine} {other : σ}
      (occurs : engine.Occurs console (.initial channel) machine other) :
      machine.Fits engine.program engine.tapeSize :=
    fits_of_occurs cells matching positive occurs
  refine ⟨source, shown, ?_⟩
  constructor
  case contained =>
    intro machine other occurs
    have contained := fits occurs
    exact ⟨contained.tapeSize, fun cell _ => Nat.le_of_lt_succ cell.toNat_lt,
      contained.pointer, contained.standing, contained.within⟩
  case batches =>
    intro machine other occurs limit
    exact (fits occurs).checkedBatch_eq matching limit
  case steps =>
    intro machine other occurs going
    exact (fits occurs).checkedStep_eq matching going console other
  case stepFaults =>
    intro calls fault
    have held := fits_afterCalls cells matching unused console calls
    exact step_tapeBounds_iff shown matching cells fresh held console
  case runFaults =>
    intro calls fault
    constructor
    · rintro ⟨left, concludes⟩
      obtain ⟨machine, other, _, passes, leaves⟩ :=
        (concludes_tapeBounds_iff shown matching cells fresh positive).mp concludes
      exact ⟨machine, other, passes, leaves⟩
    · rintro ⟨machine, other, passes, leaves⟩
      exact ⟨.behind machine other,
        (concludes_tapeBounds_iff shown matching cells fresh positive).mpr
          ⟨machine, other, rfl, passes, leaves⟩⟩

/-- A program that reads into its second cell of two, in batches of three steps. -/
theorem staysOnTape_second_cell :
    (Program.ofOpcodes
        [.moveRight, .input, .loopOpen, .moveLeft, .increment, .moveRight, .decrement,
          .loopClose, .moveRight]).IsLoaded ∧
      (Program.ofOpcodes
        [.moveRight, .input, .loopOpen, .moveLeft, .increment, .moveRight, .decrement,
          .loopClose, .moveRight]).resolveLoops =
        .ok ⟨#[0, 1, 7, 3, 4, 5, 6, 2, 8],
          #[false, false, true, false, false, false, false, true, false]⟩ ∧
      0 < 2 ∧
      Host.large.grantsTape 2 = true ∧
      0 < 3 ∧
      ∃ source,
        (Program.ofOpcodes
          [.moveRight, .input, .loopOpen, .moveLeft, .increment, .moveRight, .decrement,
            .loopClose, .moveRight]).toSource = .ok source ∧
          StaysOnTape
            ⟨.ofOpcodes
                [.moveRight, .input, .loopOpen, .moveLeft, .increment, .moveRight, .decrement,
                  .loopClose, .moveRight],
              ⟨#[0, 1, 7, 3, 4, 5, 6, 2, 8],
                #[false, false, true, false, false, false, false, true, false]⟩, 2, true, 3, .large⟩
            Channel.console ⟨.memory [2], .empty⟩ source := by
  have loaded :
      (Program.ofOpcodes
        [.moveRight, .input, .loopOpen, .moveLeft, .increment, .moveRight, .decrement,
          .loopClose, .moveRight]).IsLoaded :=
    .ofSource (.text ">,[<+>-]>") rfl
  have resolved :
      (Program.ofOpcodes
        [.moveRight, .input, .loopOpen, .moveLeft, .increment, .moveRight, .decrement,
          .loopClose, .moveRight]).resolveLoops =
        .ok ⟨#[0, 1, 7, 3, 4, 5, 6, 2, 8],
          #[false, false, true, false, false, false, false, true, false]⟩ := by
    cbv
  have cells : 0 < 2 := by decide
  have granted : Host.large.grantsTape 2 = true := by decide
  have positive : 0 < 3 := by decide
  refine ⟨loaded, resolved, cells, granted, positive, ?_⟩
  exact staysOnTape_of_isLoaded
    ⟨.ofOpcodes
        [.moveRight, .input, .loopOpen, .moveLeft, .increment, .moveRight, .decrement,
          .loopClose, .moveRight],
      ⟨#[0, 1, 7, 3, 4, 5, 6, 2, 8],
        #[false, false, true, false, false, false, false, true, false]⟩, 2, true, 3, .large⟩
    loaded resolved cells granted positive Channel.console ⟨.memory [2], .empty⟩

end Brainfuck.Engine
