import Brainfuck.Proofs.Console.Device
import Brainfuck.Proofs.Engine.Course

namespace Brainfuck.Engine

/-!
# Output that is refused

A device that refuses a byte ends the run in front of the word that writes it:
what was written before is recorded, in order and without loss, and nothing of
that word is counted.  As long as the device refuses nothing, a run on it cannot
be told apart from one on a sink that never refuses.
-/

variable {σ ρ : Type}

/-- Whether all that a run on one device does is also done by the run on another one. -/
structure CarriesOver
    (engine : Engine)
    (console : Console σ)
    (join : ρ → Output → σ)
    (state : State σ)
    (source : ρ)
    (one other : Array UInt8 → Output) :
    Prop where
  /-- The other run comes to the same conclusion, with the same bytes on its device. -/
  conclusions : ∀ answer left,
    engine.Concludes console { state with channel := join source (one #[]) } answer left →
      ∃ rest bytes, left.channel = join rest (one bytes) ∧
        engine.Concludes console { state with channel := join source (other #[]) } answer
          { left with channel := join rest (other bytes) }
  /-- The other run comes through the same machines, with the same bytes on its device. -/
  passes : ∀ machine channel,
    engine.RunPasses console { state with channel := join source (one #[]) } machine channel →
      ∃ rest bytes, channel = join rest (one bytes) ∧
        engine.RunPasses console { state with channel := join source (other #[]) } machine
          (join rest (other bytes))

/--
Whether a run on a sink that never refuses comes to a word that writes, with a
number of bytes written before.
-/
structure ComesToWrite
    (engine : Engine)
    (console : Console σ)
    (join : ρ → Output → σ)
    (state : State σ)
    (source : ρ)
    (written : Nat)
    (machine : Machine)
    (rest : ρ)
    (bytes : Array UInt8) :
    Prop where
  passes : engine.RunPasses console { state with channel := join source (.recording #[]) }
    machine (join rest (.recording bytes))
  writes : engine.program.opcodeAt? machine.pc = some .output
  count : bytes.size = written

/-- How a run on a device that refuses a byte compares with one on a sink that never does. -/
structure LosesNothing
    (engine : Engine)
    (console : Console σ)
    (join : ρ → Output → σ)
    (state : State σ)
    (source : ρ)
    (limit : Nat)
    (cause : SystemError)
    (device : Array UInt8 → Output)
    (recorded : Array UInt8 → UInt8 → Array UInt8) :
    Prop where
  /-- The run fails in front of the first word that writes more than the device takes. -/
  refused : ∀ machine rest bytes,
    engine.ComesToWrite console join state source limit machine rest bytes →
      ∃ output, output.bytes = recorded bytes machine.cell ∧
        engine.Concludes console { state with channel := join source (device #[]) }
          (.error (.outputFailed cause)) (.behind machine (join rest output))
  /-- If there is no such word, the device makes no difference. -/
  unaffected :
    (∀ machine rest bytes,
      ¬ engine.ComesToWrite console join state source limit machine rest bytes) →
      engine.CarriesOver console join state source .recording device ∧
        engine.CarriesOver console join state source device .recording

section

variable
  {engine : Engine}
  {console : Console σ}
  {read : ρ → Reading × ρ}
  {join : ρ → Output → σ}
  {state left : State σ}
  {source : ρ}
  {device one other : Array UInt8 → Output}
  {tape : Array UInt8}
  {machine : Machine}
  {channel : σ}
  {answer : Outcome Machine}
  {limit : Nat}
  {cause : SystemError}
  {recorded : Array UInt8 → UInt8 → Array UInt8}

/-- Whether a device accepts all that a run writes. -/
def AcceptsAll
    (engine : Engine)
    (read : ρ → Reading × ρ)
    (source : ρ)
    (tape : Array UInt8)
    (device : Array UInt8 → Output) :
    Prop :=
  ∀ length middle middleChannel,
    Machine.Path (.keeping read) engine.program engine.table length (.start tape)
        (source, #[]) middle middleChannel →
      engine.program.opcodeAt? middle.pc = some .output →
        (device middleChannel.2).write middle.cell =
          (.ok (), device (middleChannel.2.push middle.cell))

theorem acceptsAll_recording
    (engine : Engine)
    (read : ρ → Reading × ρ)
    (source : ρ)
    (tape : Array UInt8) :
    engine.AcceptsAll read source tape .recording :=
  fun _ _ _ _ _ => Output.write_recording _ _

theorem answersAlike_of_acceptsAll
    (connects : console.Connects read join)
    (accepts : engine.AcceptsAll read source tape device) :
    ∀ length middle middleChannel,
      Machine.Path (.keeping read) engine.program engine.table length (.start tape)
          (source, #[]) middle middleChannel →
        Machine.AnswersAlike (.keeping read) console (onDevice join device) engine.program
          middle middleChannel := by
  intro length middle middleChannel reached
  exact Machine.answersAlike_onDevice connects (accepts _ _ _ reached)

variable
  (connects : console.Connects read join)
  (positive : 0 < engine.batchSteps)
  (serves : engine.table.Serves engine.program)
  (granted : engine.host.newTape? engine.tapeSize = some tape)

include connects positive serves granted

/-- On a device that accepts all, a run comes through what single steps come through. -/
theorem runPasses_iff_keeping
    (accepts : engine.AcceptsAll read source tape device) :
    engine.RunPasses console { state with channel := join source (device #[]) } machine
        channel ↔
      ∃ count kept, channel = onDevice join device kept ∧
        Machine.Path (.keeping read) engine.program engine.table count (.start tape)
          (source, #[]) machine kept := by
  have alike := answersAlike_of_acceptsAll connects accepts
  rw [runPasses_iff_path positive serves granted]
  constructor
  · rintro ⟨count, path⟩
    obtain ⟨kept, same, reached⟩ := Machine.exists_path_of_alike alike path
    exact ⟨count, kept, same, reached⟩
  · rintro ⟨count, kept, rfl, path⟩
    exact ⟨count, path.onChannel fun length middle middleChannel _ => alike _ _ _⟩

theorem concludes_iff_keeping
    (accepts : engine.AcceptsAll read source tape device) :
    engine.Concludes console { state with channel := join source (device #[]) } answer left ↔
      ∃ count ending last kept,
        answer? ⟨ending, last, kept, #[]⟩ = some answer ∧
          left = .behind last (onDevice join device kept) ∧
          Machine.Ends (.keeping read) engine.program engine.table count (.start tape)
            (source, #[]) ending last kept := by
  have alike := answersAlike_of_acceptsAll connects accepts
  rw [concludes_iff_ends positive serves granted]
  constructor
  · rintro ⟨count, ending, last, channel, answers, rfl, ends⟩
    obtain ⟨kept, rfl, reached⟩ := Machine.exists_ends_of_alike alike ends
    exact ⟨count, ending, last, kept, answers, rfl, reached⟩
  · rintro ⟨count, ending, last, kept, answers, rfl, ends⟩
    exact ⟨count, ending, last, _, answers, rfl, ends.onChannel alike⟩

theorem carriesOver_of_acceptsAll
    (oneAccepts : engine.AcceptsAll read source tape one)
    (otherAccepts : engine.AcceptsAll read source tape other) :
    engine.CarriesOver console join state source one other := by
  constructor
  case conclusions =>
    intro answer left concludes
    obtain ⟨count, ending, last, kept, answers, rfl, ends⟩ :=
      (concludes_iff_keeping connects positive serves granted oneAccepts).mp concludes
    exact ⟨kept.1, kept.2, rfl,
      (concludes_iff_keeping connects positive serves granted otherAccepts).mpr
        ⟨count, ending, last, kept, answers, rfl, ends⟩⟩
  case passes =>
    intro machine channel passes
    obtain ⟨count, kept, rfl, path⟩ :=
      (runPasses_iff_keeping connects positive serves granted oneAccepts).mp passes
    exact ⟨kept.1, kept.2, rfl,
      (runPasses_iff_keeping connects positive serves granted otherAccepts).mpr
        ⟨count, kept, rfl, path⟩⟩

variable (refuses : Output.Refuses device limit cause recorded)

include refuses

/-- A device ends the run in front of the first word that writes more than it takes. -/
theorem concludes_of_comesToWrite
    {rest : ρ}
    {bytes : Array UInt8}
    (comes : engine.ComesToWrite console join state source limit machine rest bytes) :
    ∃ output, output.bytes = recorded bytes machine.cell ∧
      engine.Concludes console { state with channel := join source (device #[]) }
        (.error (.outputFailed cause)) (.behind machine (join rest output)) := by
  obtain ⟨count, ⟨keptRest, kept⟩, same, path⟩ :=
    (runPasses_iff_keeping connects positive serves granted
      (engine.acceptsAll_recording read source tape)).mp comes.passes
  obtain ⟨sameRest, sameRecord⟩ := connects.injective same
  have sameBytes := Output.recording_injective sameRecord
  subst sameRest sameBytes
  -- Each word that wrote on the way found fewer bytes than the device takes.
  have reached :
      Machine.Path console engine.program engine.table count (.start tape)
        (onDevice join device (source, #[])) machine (onDevice join device (rest, bytes)) := by
    apply path.onChannel
    intro length middle middleChannel shorter onTheWay
    apply Machine.answersAlike_onDevice connects
    intro writes
    have fewer := path.size_lt_size shorter onTheWay writes
    exact refuses.accepts _ _ (Nat.lt_of_lt_of_eq fewer comes.count)
  obtain ⟨output, refused, left⟩ := refuses.refuses bytes machine.cell comes.count
  have obstacle :
      Machine.Obstacle console engine.program machine (onDevice join device (rest, bytes))
        (.outputFailed cause) (join rest output) := by
    apply Machine.Obstacle.output comes.writes
    rw [onDevice, connects.writes, refused]
  have passes :
      engine.RunPasses console { state with channel := join source (device #[]) } machine
        (onDevice join device (rest, bytes)) :=
    (runPasses_iff_path positive serves granted).mpr ⟨count, reached⟩
  exact ⟨output, left, concludes_of_obstacle positive serves granted passes obstacle⟩

/-- A run that writes no more than a device takes is accepted as a whole. -/
theorem acceptsAll_of_not_comesToWrite
    (never : ∀ machine rest bytes,
      ¬ engine.ComesToWrite console join state source limit machine rest bytes) :
    engine.AcceptsAll read source tape device := by
  intro length middle middleChannel path writes
  apply refuses.accepts
  by_contra full
  obtain ⟨shorter, machine, kept, reached, found, counted⟩ :=
    path.exists_write writes (Nat.zero_le limit) (Nat.le_of_not_lt full)
  have passes :
      engine.RunPasses console { state with channel := join source (.recording #[]) } machine
        (onDevice join .recording kept) :=
    (runPasses_iff_keeping connects positive serves granted
      (engine.acceptsAll_recording read source tape)).mpr ⟨shorter, kept, rfl, reached⟩
  exact never machine kept.1 kept.2 ⟨passes, found, counted⟩

end

/-- Without a tape, the device makes no difference. -/
theorem carriesOver_of_refused
    {engine : Engine}
    (refused : engine.host.newTape? engine.tapeSize = none)
    (console : Console σ)
    (join : ρ → Output → σ)
    (state : State σ)
    (source : ρ)
    (one other : Array UInt8 → Output) :
    engine.CarriesOver console join state source one other := by
  constructor
  case conclusions =>
    intro answer left concludes
    obtain ⟨rfl, rfl⟩ := (concludes_of_refused engine refused).mp concludes
    exact ⟨source, #[], rfl, (concludes_of_refused engine refused).mpr ⟨rfl, rfl⟩⟩
  case passes =>
    rintro machine channel ⟨tape, granted, _⟩
    rw [refused] at granted
    cases granted

theorem losesNothing_of_refuses
    {engine : Engine}
    {console : Console σ}
    {read : ρ → Reading × ρ}
    {join : ρ → Output → σ}
    {limit : Nat}
    {cause : SystemError}
    {device : Array UInt8 → Output}
    {recorded : Array UInt8 → UInt8 → Array UInt8}
    (connects : console.Connects read join)
    (positive : 0 < engine.batchSteps)
    (serves : engine.table.Serves engine.program)
    (refuses : Output.Refuses device limit cause recorded)
    (state : State σ)
    (source : ρ) :
    engine.LosesNothing console join state source limit cause device recorded := by
  cases tape? : engine.host.newTape? engine.tapeSize with
  | none =>
      constructor
      case refused =>
        intro machine rest bytes comes
        obtain ⟨tape, granted, _⟩ := comes.passes
        rw [tape?] at granted
        cases granted
      case unaffected =>
        intro _
        exact ⟨carriesOver_of_refused tape? console join state source .recording device,
          carriesOver_of_refused tape? console join state source device .recording⟩
  | some tape =>
      have recordingAccepts := engine.acceptsAll_recording read source tape
      constructor
      case refused =>
        intro machine rest bytes comes
        exact concludes_of_comesToWrite connects positive serves tape? refuses comes
      case unaffected =>
        intro never
        have accepts :=
          acceptsAll_of_not_comesToWrite connects positive serves tape? refuses never
        exact
          ⟨carriesOver_of_acceptsAll connects positive serves tape? recordingAccepts accepts,
            carriesOver_of_acceptsAll connects positive serves tape? accepts recordingAccepts⟩

/--
A sink that refuses writes from some number of them on loses nothing of what it
took, and a stream that refuses flushes only adds the byte that it did not flush.
-/
theorem losesNothing_of_resolveLoops
    (engine : Engine)
    (resolved : engine.program.resolveLoops = .ok engine.table)
    (positive : 0 < engine.batchSteps)
    (console : Console σ)
    (read : ρ → Reading × ρ)
    (join : ρ → Output → σ)
    (connects : console.Connects read join)
    (state : State σ)
    (source : ρ)
    (limit : Nat)
    (cause : SystemError) :
    engine.LosesNothing console join state source limit cause
        (.refusingWrites limit cause) (fun bytes _ => bytes) ∧
      engine.LosesNothing console join state source limit cause
        (.refusingFlushes limit cause) Array.push := by
  obtain ⟨_, matching⟩ := Program.matches_of_resolveLoops resolved
  constructor
  · exact losesNothing_of_refuses connects positive matching.serves
      (Output.refuses_refusingWrites limit cause) state source
  · exact losesNothing_of_refuses connects positive matching.serves
      (Output.refuses_refusingFlushes limit cause) state source

/-- An endless echo of its input, in batches of two, on devices that take three bytes. -/
theorem losesNothing_echo :
    (Program.ofOpcodes [.increment, .loopOpen, .output, .input, .loopClose]).resolveLoops =
        .ok ⟨#[0, 4, 2, 3, 1], #[false, true, false, false, true]⟩ ∧
      0 < 2 ∧
      Channel.console.Connects Input.read Channel.mk ∧
      (LosesNothing
        ⟨.ofOpcodes [.increment, .loopOpen, .output, .input, .loopClose],
          ⟨#[0, 4, 2, 3, 1], #[false, true, false, false, true]⟩, 1, true, 2, .large⟩
        Channel.console Channel.mk (.initial .empty) (.memory [7, 8]) 3 .blank
        (.refusingWrites 3 .blank) (fun bytes _ => bytes) ∧
      LosesNothing
        ⟨.ofOpcodes [.increment, .loopOpen, .output, .input, .loopClose],
          ⟨#[0, 4, 2, 3, 1], #[false, true, false, false, true]⟩, 1, true, 2, .large⟩
        Channel.console Channel.mk (.initial .empty) (.memory [7, 8]) 3 .blank
        (.refusingFlushes 3 .blank) Array.push) := by
  have resolved :
      (Program.ofOpcodes [.increment, .loopOpen, .output, .input, .loopClose]).resolveLoops =
        .ok ⟨#[0, 4, 2, 3, 1], #[false, true, false, false, true]⟩ := by
    cbv
  have positive : 0 < 2 := by decide
  refine ⟨resolved, positive, Channel.connects, ?_⟩
  exact losesNothing_of_resolveLoops
    ⟨.ofOpcodes [.increment, .loopOpen, .output, .input, .loopClose],
      ⟨#[0, 4, 2, 3, 1], #[false, true, false, false, true]⟩, 1, true, 2, .large⟩
    resolved positive Channel.console Input.read Channel.mk Channel.connects (.initial .empty)
    (.memory [7, 8]) 3 .blank

end Brainfuck.Engine
