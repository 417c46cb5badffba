import Brainfuck.Proofs.Engine.Containment
import Brainfuck.Proofs.Machine.WiderTape

namespace Brainfuck.Engine

/-!
# The size of the tape

The size of the tape matters only through moves off its right end.  A run on a
longer tape comes through everything that a run on a shorter one comes through,
and it ends alike unless the shorter tape ends too soon: then the longer one
goes on.
-/

/-- The engine for the same program with the same settings, but for another size of the tape. -/
def resized
    (engine : Engine)
    (cells : Nat) :
    Engine :=
  { engine with tapeSize := cells }

variable {σ : Type}

/-- How the runs of an engine compare with those of its copy on a larger tape. -/
structure Widens
    (engine : Engine)
    (larger : Nat)
    (console : Console σ)
    (state : State σ) :
    Prop where
  /-- The longer tape comes through all that the shorter one comes through, in the same steps. -/
  follows : ∀ machine channel,
    engine.RunPasses console state machine channel →
      (engine.resized larger).RunPasses console state
        (machine.widened (larger - engine.tapeSize)) channel
  /-- In as many steps, the longer tape comes through nothing else. -/
  keepsTo : ∀ machine channel other otherChannel,
    engine.RunPasses console state machine channel →
      (engine.resized larger).RunPasses console state other otherChannel →
        other.steps ≤ machine.steps →
          ∃ shorter, other = shorter.widened (larger - engine.tapeSize) ∧
            engine.RunPasses console state shorter otherChannel
  /-- A run that returns does so on the longer tape, with zero cells behind the shorter one. -/
  returns : ∀ machine left,
    engine.Concludes console state (.ok machine) left →
      (engine.resized larger).Concludes console state
        (.ok (machine.widened (larger - engine.tapeSize))) left
  /-- Input that fails does so on the longer tape. -/
  inputFails : ∀ cause left,
    engine.Concludes console state (.error (.inputFailed cause)) left →
      (engine.resized larger).Concludes console state
        (.error (.inputFailed cause)) left
  /-- Output that fails does so on the longer tape. -/
  outputFails : ∀ cause left,
    engine.Concludes console state (.error (.outputFailed cause)) left →
      (engine.resized larger).Concludes console state
        (.error (.outputFailed cause)) left
  /-- A move off the tape attempts the cell in front of the first or behind the last one. -/
  sides : ∀ fault left,
    engine.Concludes console state (.error (.tapeBounds fault)) left →
      fault.pointer = -1 ∨ fault.pointer = engine.tapeSize
  /-- A move off the left end fails on the longer tape, and only the reported size differs. -/
  leftEnd : ∀ fault left,
    engine.Concludes console state (.error (.tapeBounds fault)) left →
      fault.pointer = -1 →
        (engine.resized larger).Concludes console state
          (.error (.tapeBounds { fault with tapeSize := larger })) left
  /-- The longer tape comes to a move off the right end too, and past it if it is longer. -/
  rightEnd : ∀ fault left,
    engine.Concludes console state (.error (.tapeBounds fault)) left →
      fault.pointer = engine.tapeSize →
        ∃ machine,
          left = .behind machine left.channel ∧
            fault.address = machine.pc ∧
            engine.program.opcodeAt? machine.pc = some .moveRight ∧
            machine.pointer + 1 = engine.tapeSize ∧
            engine.RunPasses console state machine left.channel ∧
            (engine.resized larger).RunPasses console state
              (machine.widened (larger - engine.tapeSize)) left.channel ∧
            (engine.tapeSize < larger →
              (engine.resized larger).RunPasses console state
                ((machine.widened (larger - engine.tapeSize)).point engine.tapeSize).advance
                left.channel)

section

variable
  {engine : Engine}
  {larger : Nat}
  {console : Console σ}
  {state left : State σ}
  {machine last : Machine}
  {channel lastChannel : σ}
  {tape wideTape : Array UInt8}
  {failure wideFailure : Failure}
  {fault : BoundsFault}
  (matching : engine.table.Matches engine.program)
  (cells : 0 < engine.tapeSize)
  (granted : engine.host.newTape? engine.tapeSize = some tape)

include matching cells granted

/-- Every path of a run on the shorter tape is one of a run on the longer tape. -/
theorem path_widened
    {count : Nat}
    (wider : engine.tapeSize ≤ larger)
    (wideGranted : engine.host.newTape? larger = some wideTape)
    (path : Machine.Path console engine.program engine.table count (.start tape)
      channel last lastChannel) :
    Machine.Path console engine.program engine.table count (.start wideTape) channel
      (last.widened (larger - engine.tapeSize)) lastChannel := by
  have wide := path.widened matching (fits_start cells granted) (larger - engine.tapeSize)
  rw [eq_replicate_of_newTape? granted, Machine.widened_start, Nat.add_sub_of_le wider] at wide
  rw [eq_replicate_of_newTape? wideGranted]
  exact wide

variable (positive : 0 < engine.batchSteps)

include positive

/-- A run that reports its pointer has come to a move off its tape. -/
theorem exists_leavesTape
    (concludes : engine.Concludes console state (.error (.tapeBounds fault)) left) :
    ∃ source machine,
      engine.program.toSource = .ok source ∧
        left = .behind machine left.channel ∧
        engine.RunPasses console state machine left.channel ∧
        LeavesTape engine.program engine.tapeSize source machine fault := by
  obtain ⟨_, _, _, _, _, obstacle⟩ :=
    (concludes_error_iff_obstacle matching cells granted positive).mp concludes
  obtain ⟨source, shown⟩ := obstacle.exists_toSource
  obtain ⟨machine, other, rfl, passes, leaves⟩ :=
    (concludes_tapeBounds_iff shown matching cells granted positive).mp concludes
  exact ⟨source, machine, shown, rfl, passes, leaves⟩

variable
  (wider : engine.tapeSize ≤ larger)
  (wideGranted : engine.host.newTape? larger = some wideTape)

include wider wideGranted

theorem runPasses_widened
    (passes : engine.RunPasses console state machine channel) :
    (engine.resized larger).RunPasses console state
      (machine.widened (larger - engine.tapeSize)) channel := by
  have widePositive : 0 < (engine.resized larger).batchSteps := positive
  obtain ⟨count, path⟩ := (runPasses_iff_path positive matching.serves granted).mp passes
  exact (runPasses_iff_path widePositive matching.serves wideGranted).mpr
    ⟨count, path_widened matching cells granted wider wideGranted path⟩

/-- As long as the run on the shorter tape goes on, that on the longer one does nothing else. -/
theorem exists_shorter_of_runPasses
    (passes : engine.RunPasses console state machine channel)
    (widePasses : (engine.resized larger).RunPasses console state last lastChannel)
    (within : last.steps ≤ machine.steps) :
    ∃ shorter, last = shorter.widened (larger - engine.tapeSize) ∧
      engine.RunPasses console state shorter lastChannel := by
  have widePositive : 0 < (engine.resized larger).batchSteps := positive
  obtain ⟨count, path⟩ := (runPasses_iff_path positive matching.serves granted).mp passes
  obtain ⟨length, widePath⟩ :=
    (runPasses_iff_path widePositive matching.serves wideGranted).mp widePasses
  rw [path.steps_eq, widePath.steps_eq] at within
  obtain ⟨shorter, shorterChannel, shorterPath⟩ :=
    path.exists_take (Nat.le_of_add_le_add_left within)
  obtain ⟨rfl, rfl⟩ :=
    widePath.unique (path_widened matching cells granted wider wideGranted shorterPath)
  exact ⟨shorter, rfl,
    (runPasses_iff_path positive matching.serves granted).mpr ⟨length, shorterPath⟩⟩

theorem concludes_ok_widened
    (concludes : engine.Concludes console state (.ok machine) left) :
    (engine.resized larger).Concludes console state
      (.ok (machine.widened (larger - engine.tapeSize))) left := by
  have widePositive : 0 < (engine.resized larger).batchSteps := positive
  obtain ⟨count, last, rfl, ends⟩ :=
    (concludes_ok_iff positive matching.serves granted).mp concludes
  refine (concludes_ok_iff widePositive matching.serves wideGranted).mpr ⟨count, last, rfl, ?_⟩
  cases ends with
  | finished path past =>
      exact .finished (path_widened matching cells granted wider wideGranted path) past

/-- A failure by an obstacle that the longer tape meets too is one on the longer tape. -/
theorem concludes_error_widened
    (met : ∀ machine channel next,
      machine.Fits engine.program engine.tapeSize →
        Machine.Obstacle console engine.program machine channel failure next →
          Machine.Obstacle console engine.program
            (machine.widened (larger - engine.tapeSize)) channel wideFailure next)
    (concludes : engine.Concludes console state (.error failure) left) :
    (engine.resized larger).Concludes console state (.error wideFailure) left := by
  have widePositive : 0 < (engine.resized larger).batchSteps := positive
  obtain ⟨machine, channel, next, rfl, passes, obstacle⟩ :=
    (concludes_error_iff_obstacle matching cells granted positive).mp concludes
  have fits := fits_runPasses cells matching positive passes
  have widePasses :=
    runPasses_widened matching cells granted positive wider wideGranted passes
  have raised :
      (engine.resized larger).Concludes console state (.error wideFailure)
        (.behind (machine.widened (larger - engine.tapeSize)) next) :=
    concludes_of_obstacle widePositive matching.serves wideGranted widePasses
      (met machine channel next fits obstacle)
  exact raised

/-- Behind a move off the shorter tape, the longer one goes on. -/
theorem runPasses_advance_widened
    (longer : engine.tapeSize < larger)
    (passes : engine.RunPasses console state machine channel)
    (found : engine.program.opcodeAt? machine.pc = some .moveRight)
    (edge : machine.pointer + 1 = engine.tapeSize) :
    (engine.resized larger).RunPasses console state
      ((machine.widened (larger - engine.tapeSize)).point engine.tapeSize).advance
      channel := by
  have widePositive : 0 < (engine.resized larger).batchSteps := positive
  obtain ⟨count, path⟩ := (runPasses_iff_path positive matching.serves granted).mp passes
  have fits := path.fits matching (fits_start cells granted)
  have going := Machine.isPast_of_opcodeAt? fits.standing found
  have wideStanding : 0 ≤ (machine.widened (larger - engine.tapeSize)).pc := fits.standing
  have wideFound :
      engine.program.opcodeAt? (machine.widened (larger - engine.tapeSize)).pc =
        some .moveRight :=
    found
  have room :
      (machine.widened (larger - engine.tapeSize)).pointer + 1 <
        (machine.widened (larger - engine.tapeSize)).tape.size := by
    simp only [Machine.widened, Array.size_append, Array.size_replicate, fits.tapeSize]
    omega
  have stepped :
      (machine.widened (larger - engine.tapeSize)).step console engine.program engine.table
          channel =
        ⟨none, ((machine.widened (larger - engine.tapeSize)).point engine.tapeSize).advance,
          channel⟩ := by
    rw [Machine.step_eq wideStanding going, wideFound]
    simp only [Machine.execute, room, ↓reduceIte, Machine.proceed]
    rw [show (machine.widened (larger - engine.tapeSize)).pointer + 1 = engine.tapeSize from edge]
  exact (runPasses_iff_path widePositive matching.serves wideGranted).mpr
    ⟨count + 1,
      (path_widened matching cells granted wider wideGranted path).snoc going stepped⟩

end

/-- A tape of another size changes a run only by what happens at its right end. -/
theorem widens_of_le
    (engine : Engine)
    (larger : Nat)
    (resolved : engine.program.resolveLoops = .ok engine.table)
    (cells : 0 < engine.tapeSize)
    (wider : engine.tapeSize ≤ larger)
    (granted : engine.host.grantsTape engine.tapeSize = true)
    (wideGranted : engine.host.grantsTape larger = true)
    (positive : 0 < engine.batchSteps)
    (console : Console σ)
    (state : State σ) :
    engine.Widens larger console state := by
  obtain ⟨_, matching⟩ := Program.matches_of_resolveLoops resolved
  have fresh := newTape?_of_grantsTape granted
  have wideFresh := newTape?_of_grantsTape wideGranted
  constructor
  case follows =>
    intro machine channel passes
    exact runPasses_widened matching cells fresh positive wider wideFresh passes
  case keepsTo =>
    intro machine channel other otherChannel passes widePasses within
    exact exists_shorter_of_runPasses matching cells fresh positive wider wideFresh passes
      widePasses within
  case returns =>
    intro machine left concludes
    exact concludes_ok_widened matching cells fresh positive wider wideFresh concludes
  case inputFails =>
    intro cause left concludes
    refine concludes_error_widened matching cells fresh positive wider wideFresh ?_ concludes
    intro machine channel next fits obstacle
    obtain ⟨found, answered⟩ := Machine.obstacle_inputFailed_iff.mp obstacle
    exact .input found answered
  case outputFails =>
    intro cause left concludes
    refine concludes_error_widened matching cells fresh positive wider wideFresh ?_ concludes
    intro machine channel next fits obstacle
    obtain ⟨found, written⟩ := Machine.obstacle_outputFailed_iff.mp obstacle
    rw [← Machine.cell_widened fits.onTape (larger - engine.tapeSize)] at written
    exact .output found written
  case sides =>
    intro fault left concludes
    obtain ⟨source, machine, _, _, _, leaves⟩ :=
      exists_leavesTape matching cells fresh positive concludes
    cases leaves with
    | right => exact .inr rfl
    | left => exact .inl rfl
  case leftEnd =>
    intro fault left concludes before
    obtain ⟨source, machine, shown, same, passes, leaves⟩ :=
      exists_leavesTape matching cells fresh positive concludes
    cases leaves with
    | right =>
        cases before
    | left found edge =>
        have wideCells : 0 < (engine.resized larger).tapeSize := Nat.lt_of_lt_of_le cells wider
        have wideShown : (engine.resized larger).program.toSource = .ok source := shown
        exact (concludes_tapeBounds_iff wideShown matching wideCells wideFresh positive).mpr
          ⟨machine.widened (larger - engine.tapeSize), left.channel, same,
            runPasses_widened matching cells fresh positive wider wideFresh passes,
            .left found edge⟩
  case rightEnd =>
    intro fault left concludes behind
    obtain ⟨source, machine, shown, same, passes, leaves⟩ :=
      exists_leavesTape matching cells fresh positive concludes
    cases leaves with
    | left =>
        cases behind
    | right found edge =>
        refine ⟨machine, same, rfl, found, edge, passes, ?_, ?_⟩
        · exact runPasses_widened matching cells fresh positive wider wideFresh passes
        · intro longer
          exact runPasses_advance_widened matching cells fresh positive wider wideFresh longer
            passes found edge

/-- A loop that moves to the right until it meets a zero, on two and on four cells. -/
theorem widens_two_cells :
    (Program.ofOpcodes
        [.input, .loopOpen, .output, .moveRight, .input, .loopClose]).resolveLoops =
        .ok ⟨#[0, 5, 2, 3, 4, 1], #[false, true, false, false, false, true]⟩ ∧
      0 < 2 ∧
      2 ≤ 4 ∧
      Host.large.grantsTape 2 = true ∧
      Host.large.grantsTape 4 = true ∧
      0 < 3 ∧
      Widens
        ⟨.ofOpcodes [.input, .loopOpen, .output, .moveRight, .input, .loopClose],
          ⟨#[0, 5, 2, 3, 4, 1], #[false, true, false, false, false, true]⟩, 2, true, 3, .large⟩
        4 Channel.console (.initial ⟨.memory [7, 8, 9], .empty⟩) := by
  have resolved :
      (Program.ofOpcodes
        [.input, .loopOpen, .output, .moveRight, .input, .loopClose]).resolveLoops =
        .ok ⟨#[0, 5, 2, 3, 4, 1], #[false, true, false, false, false, true]⟩ := by
    cbv
  have cells : 0 < 2 := by decide
  have wider : 2 ≤ 4 := by decide
  have granted : Host.large.grantsTape 2 = true := by decide
  have wideGranted : Host.large.grantsTape 4 = true := by decide
  have positive : 0 < 3 := by decide
  refine ⟨resolved, cells, wider, granted, wideGranted, positive, ?_⟩
  exact widens_of_le
    ⟨.ofOpcodes [.input, .loopOpen, .output, .moveRight, .input, .loopClose],
      ⟨#[0, 5, 2, 3, 4, 1], #[false, true, false, false, false, true]⟩, 2, true, 3, .large⟩
    4 resolved cells wider granted wideGranted positive Channel.console
    (.initial ⟨.memory [7, 8, 9], .empty⟩)

end Brainfuck.Engine
