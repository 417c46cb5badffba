import Brainfuck.Proofs.CSource.Simulation
import Brainfuck.Proofs.Engine.Conclusion
import Brainfuck.Proofs.Numeral
import Brainfuck.Proofs.Options
import Brainfuck.Proofs.Program.Loaded

namespace Brainfuck.CSource

/-!
# Agreement of C source with an engine

The C source of a program and an engine for it do the same on every input: both
finish with the same tape, cursor, output and remaining input, or both go on for
ever, or the engine reports the move by which the cursor of the source escapes.
-/

/-- The state of an engine that has not run yet and has some bytes to read. -/
def untouched (input : List UInt8) : Engine.State Channel :=
  .initial ⟨.memory input, .empty⟩

/-- Whether C source and an engine do the same on an input. -/
structure TranslationUnit.AgreesWith
    (source : TranslationUnit)
    (engine : Engine)
    (input : List UInt8) :
    Prop where
  wellFormed : ∀ fuel, (source.run input fuel).1 ≠ .malformed
  finishes :
    (∃ fuel state, source.run input fuel = (.finished, state)) ↔
      ∃ machine left, engine.Concludes Channel.console (untouched input) (.ok machine) left
  results : ∀ fuel state machine left,
    source.run input fuel = (.finished, state) →
      engine.Concludes Channel.console (untouched input) (.ok machine) left →
        machine.tape = state.cells ∧
          machine.pointer = state.cursor ∧
          left.channel = ⟨.memory state.input, .memory state.output⟩
  escapes :
    (∃ fuel cursor state, source.run input fuel = (.escaped cursor, state)) ↔
      ∃ fault left,
        engine.Concludes Channel.console (untouched input) (.error (.tapeBounds fault)) left
  attempts : ∀ fuel cursor state fault left,
    source.run input fuel = (.escaped cursor, state) →
      engine.Concludes Channel.console (untouched input) (.error (.tapeBounds fault)) left →
        fault.pointer = cursor ∧
          left.pointer = state.cursor ∧
          left.channel = ⟨.memory state.input, .memory state.output⟩
  failures : ∀ failure left,
    engine.Concludes Channel.console (untouched input) (.error failure) left →
      ∃ fault, failure = .tapeBounds fault

/-- Whether C source has the statements of the program of an engine, which can run it. -/
structure TranslationUnit.IsSourceOf
    (source : TranslationUnit)
    (engine : Engine) :
    Prop where
  statements : ∃ opcodes,
    engine.program = .ofOpcodes opcodes ∧ WellNested opcodes ∧
      source.statements = opcodes.map Statement.ofOpcode
  tapeSize : source.tapeSize = engine.tapeSize
  matching : engine.table.Matches engine.program
  positive : 0 < engine.batchSteps
  granted : engine.host.grantsTape engine.tapeSize = true

namespace TranslationUnit.IsSourceOf

variable
  {source : TranslationUnit}
  {engine : Engine}
  {input : List UInt8}
  {fuel : Nat}
  {state : State}

/-- A machine on a fresh tape follows the source of its program. -/
theorem follows_run
    (isSource : source.IsSourceOf engine)
    (input : List UInt8)
    (fuel : Nat) :
    Follows engine.program engine.table (.start (Array.replicate engine.tapeSize 0))
      (untouched input).channel fuel engine.program.size (source.run input fuel) := by
  obtain ⟨opcodes, made, nested, spelled⟩ := isSource.statements
  have matching := isSource.matching
  rw [made] at matching
  rw [made, Program.size_ofOpcodes, ← isSource.tapeSize]
  unfold run
  rw [spelled]
  have whole : opcodes = [] ++ (opcodes ++ []) := by simp
  exact follows_execute matching nested whole (.inl rfl) (by simp) fuel 0
    (.initial source.tapeSize input)

theorem concludes_iff
    (isSource : source.IsSourceOf engine)
    (answer : Outcome Machine)
    (left : Engine.State Channel) :
    engine.Concludes Channel.console (untouched input) answer left ↔
      ∃ fuel,
        Engine.answer? (Machine.runSteps Channel.console engine.program engine.table fuel
          (.start (Array.replicate engine.tapeSize 0)) (untouched input).channel) = some answer ∧
          Engine.leftAfter (Machine.runSteps Channel.console engine.program engine.table fuel
            (.start (Array.replicate engine.tapeSize 0)) (untouched input).channel) = left := by
  have granted :
      engine.host.newTape? engine.tapeSize = some (Array.replicate engine.tapeSize 0) :=
    if_pos isSource.granted
  exact Engine.concludes_iff_runSteps engine isSource.positive isSource.matching.serves granted

/-- An engine that comes to a conclusion has a source that comes to an end. -/
theorem exists_ended
    (isSource : source.IsSourceOf engine)
    {answer : Outcome Machine}
    {left : Engine.State Channel}
    (concludes : engine.Concludes Channel.console (untouched input) answer left) :
    ∃ fuel, (source.run input fuel).1 ≠ .unfinished := by
  obtain ⟨fuel, answers, _⟩ := (isSource.concludes_iff answer left).mp concludes
  refine ⟨fuel, ?_⟩
  intro unfinished
  have follows := isSource.follows_run input fuel
  generalize source.run input fuel = result at unfinished follows
  cases follows with
  | finished | escaped =>
      cases unfinished
  | unfinished next count last lastChannel enough path =>
      exact Engine.ending_of_answer? answers (path.runSteps_unfinished enough)

/-- When the source finishes, the engine answers with its tape and its cursor. -/
theorem concludes_of_finished
    (isSource : source.IsSourceOf engine)
    (finishes : source.run input fuel = (.finished, state)) :
    ∃ steps left,
      engine.Concludes Channel.console (untouched input)
          (.ok (state.machine engine.program.size steps)) left ∧
        left.channel = state.channel := by
  have follows := isSource.follows_run input fuel
  rw [finishes] at follows
  cases follows with
  | finished _ count steps path =>
      have past : (state.machine engine.program.size steps).isPast engine.program = true :=
        decide_eq_true (Int.le_refl _)
      have ends := path.runSteps_add 1
      rw [Machine.runSteps_of_isPast past] at ends
      refine ⟨steps, _, (isSource.concludes_iff _ _).mpr ⟨count + 1, ?_, rfl⟩, ?_⟩
      · rw [ends]
        rfl
      · rw [ends]
        rfl

/-- When the cursor escapes, the engine reports where it was about to go. -/
theorem concludes_of_escaped
    (isSource : source.IsSourceOf engine)
    {cursor : Int}
    (escapes : source.run input fuel = (.escaped cursor, state)) :
    ∃ fault left,
      engine.Concludes Channel.console (untouched input) (.error (.tapeBounds fault)) left ∧
        fault.pointer = cursor ∧
        left.pointer = state.cursor ∧
        left.channel = state.channel := by
  obtain ⟨opcodes, made, _⟩ := isSource.statements
  have follows := isSource.follows_run input fuel
  rw [escapes] at follows
  cases follows with
  | escaped _ _ count address steps path inside fails =>
      obtain ⟨fault, shown, attempted⟩ :
          ∃ fault,
            Machine.boundsFailure engine.program address cursor state.cells.size =
                .tapeBounds fault ∧
              fault.pointer = cursor := by
        unfold Machine.boundsFailure
        rw [made, Program.toSource_ofOpcodes]
        exact ⟨_, rfl, rfl⟩
      rw [shown] at fails
      have ends := path.runSteps_add 1
      rw [Machine.runSteps_of_failure (isPast_machine inside state steps) fails] at ends
      refine ⟨fault, _, (isSource.concludes_iff _ _).mpr ⟨count + 1, ?_, rfl⟩,
        attempted, ?_, ?_⟩
      · rw [ends]
        rfl
      · rw [ends]
        rfl
      · rw [ends]
        rfl

/-- Source that spells the program of an engine agrees with it. -/
theorem agreesWith
    (isSource : source.IsSourceOf engine)
    (input : List UInt8) :
    source.AgreesWith engine input := by
  have unique {answer other : Outcome Machine} {left otherLeft : Engine.State Channel} :=
    @Engine.Concludes.unique Channel engine Channel.console (untouched input) left answer other
      otherLeft isSource.positive isSource.matching.serves
  have wellFormed (fuel : Nat) : (source.run input fuel).1 ≠ .malformed := by
    have follows := isSource.follows_run input fuel
    intro malformed
    generalize source.run input fuel = result at malformed follows
    cases follows <;> cases malformed
  -- An engine that answers has a source that ends, in one of two ways.
  have ends {answer : Outcome Machine} {left : Engine.State Channel}
      (concludes : engine.Concludes Channel.console (untouched input) answer left) :
      (∃ fuel state, source.run input fuel = (.finished, state)) ∨
        ∃ fuel cursor state, source.run input fuel = (.escaped cursor, state) := by
    obtain ⟨fuel, ended⟩ := isSource.exists_ended concludes
    cases result : source.run input fuel with
    | mk ending state =>
        have sound := wellFormed fuel
        rw [result] at ended sound
        cases ending with
        | finished =>
            exact .inl ⟨fuel, state, result⟩
        | escaped cursor =>
            exact .inr ⟨fuel, cursor, state, result⟩
        | malformed =>
            exact absurd rfl sound
        | unfinished =>
            exact absurd rfl ended
  constructor
  case wellFormed => exact wellFormed
  case finishes =>
    constructor
    · rintro ⟨fuel, state, finishes⟩
      obtain ⟨steps, left, concludes, _⟩ := isSource.concludes_of_finished finishes
      exact ⟨_, left, concludes⟩
    · rintro ⟨machine, left, concludes⟩
      rcases ends concludes with finished | ⟨fuel, cursor, state, escapes⟩
      · exact finished
      · obtain ⟨fault, otherLeft, fails, _⟩ := isSource.concludes_of_escaped escapes
        have answers := (unique concludes fails).1
        cases answers
  case results =>
    intro fuel state machine left finishes concludes
    obtain ⟨steps, otherLeft, alike, channel⟩ := isSource.concludes_of_finished finishes
    obtain ⟨answers, rfl⟩ := unique concludes alike
    cases answers
    exact ⟨rfl, rfl, channel⟩
  case escapes =>
    constructor
    · rintro ⟨fuel, cursor, state, escapes⟩
      obtain ⟨fault, left, concludes, _⟩ := isSource.concludes_of_escaped escapes
      exact ⟨fault, left, concludes⟩
    · rintro ⟨fault, left, concludes⟩
      rcases ends concludes with ⟨fuel, state, finishes⟩ | escaped
      · obtain ⟨steps, otherLeft, answer, _⟩ := isSource.concludes_of_finished finishes
        have answers := (unique concludes answer).1
        cases answers
      · exact escaped
  case attempts =>
    intro fuel cursor state fault left escapes concludes
    obtain ⟨other, otherLeft, alike, attempted, pointer, channel⟩ :=
      isSource.concludes_of_escaped escapes
    obtain ⟨answers, rfl⟩ := unique concludes alike
    cases answers
    exact ⟨attempted, pointer, channel⟩
  case failures =>
    intro failure left concludes
    rcases ends concludes with ⟨fuel, state, finishes⟩ | ⟨fuel, cursor, state, escapes⟩
    · obtain ⟨steps, otherLeft, alike, _⟩ := isSource.concludes_of_finished finishes
      have answers := (unique concludes alike).1
      cases answers
    · obtain ⟨fault, otherLeft, alike, _⟩ := isSource.concludes_of_escaped escapes
      have answers := (unique concludes alike).1
      cases answers
      exact ⟨fault, rfl⟩

end TranslationUnit.IsSourceOf

variable
  {program : Program}
  {table : JumpTable}
  {tapeSize batchSteps : Int}

theorem create_engine
    (resolved : program.resolveLoops = .ok table)
    (cells : 1 ≤ tapeSize)
    (positive : 1 ≤ batchSteps)
    (host : Host)
    (batched : Bool) :
    Engine.create host program none tapeSize batched batchSteps =
      .ok ⟨program, table, tapeSize.toNat, batched, batchSteps.toNat, host⟩ := by
  rw [Engine.create_eq cells positive, resolved]
  rfl

/--
Where the host grants the tape, the C source of a loaded program whose loops resolve
is read back, and agrees with an engine for the program on every input, however the
engine works.  A tape that the host does not grant is a failure of the engine, which
then does nothing at all.
-/
theorem exists_agreesWith
    (loaded : program.IsLoaded)
    (resolved : program.resolveLoops = .ok table)
    (cells : 1 ≤ tapeSize)
    (positive : 1 ≤ batchSteps)
    (host : Host)
    (batched : Bool)
    (input : List UInt8) :
    ∃ engine generator,
      Engine.create host program none tapeSize batched batchSteps = .ok engine ∧
        Generator.create tapeSize = .ok generator ∧
        (host.grantsTape tapeSize.toNat = true → ∃ text complete source,
          Generator.generate program generator = .ok text complete ∧
            TranslationUnit.ofText? text = some source ∧
            (source.tapeSize : Int) = tapeSize ∧
            source.AgreesWith engine input) ∧
        (host.grantsTape tapeSize.toNat = false → ∀ answer left,
          engine.Concludes Channel.console (untouched input) answer left ↔
            answer = .error (.tapeTooLarge tapeSize.toNat) ∧ left = untouched input) := by
  obtain ⟨opcodes, rfl⟩ := loaded.exists_opcodes
  obtain ⟨balanced, matching⟩ := Program.matches_of_resolveLoops resolved
  refine ⟨_, _, create_engine resolved cells positive host batched,
    Generator.create_of_cells cells, ?_, ?_⟩
  · intro granted
    have numeral := Text.hasNumeral_of_isSize (host.isSize_of_grantsTape granted)
    have steps : 0 < batchSteps.toNat := by omega
    refine ⟨_, _, _, Generator.generate_ofOpcodes resolved numeral,
      ofText?_text tapeSize.toNat opcodes, Int.toNat_of_nonneg (by omega), ?_⟩
    apply TranslationUnit.IsSourceOf.agreesWith
    exact
      { statements := ⟨opcodes, rfl, balanced.wellNested, rfl⟩
        tapeSize := rfl
        matching := matching
        positive := steps
        granted := granted }
  · intro refused answer left
    exact Engine.concludes_of_refused _ (if_neg (Bool.eq_false_iff.mp refused))

/-- A program that copies its input, on two cells and in batches of three steps. -/
theorem exists_agreesWith_copy :
    Program.load (.text ",[.,]") =
        .ok (.ofOpcodes [.input, .loopOpen, .output, .input, .loopClose]) ∧
      (Program.ofOpcodes [.input, .loopOpen, .output, .input, .loopClose]).resolveLoops =
        .ok ⟨#[0, 4, 2, 3, 1], #[false, true, false, false, true]⟩ ∧
      (1 : Int) ≤ 2 ∧
      (1 : Int) ≤ 3 ∧
      Host.large.grantsTape (2 : Int).toNat = true ∧
      ∃ engine generator text complete source,
        Engine.create .large (.ofOpcodes [.input, .loopOpen, .output, .input, .loopClose]) none 2
              true 3 =
            .ok engine ∧
          Generator.create 2 = .ok generator ∧
          Generator.generate (.ofOpcodes [.input, .loopOpen, .output, .input, .loopClose])
            generator = .ok text complete ∧
          TranslationUnit.ofText? text = some source ∧
          (source.tapeSize : Int) = 2 ∧
          source.AgreesWith engine [72, 105] := by
  have loads :
      Program.load (.text ",[.,]") =
        .ok (.ofOpcodes [.input, .loopOpen, .output, .input, .loopClose]) := by
    rfl
  have resolved :
      (Program.ofOpcodes [.input, .loopOpen, .output, .input, .loopClose]).resolveLoops =
        .ok ⟨#[0, 4, 2, 3, 1], #[false, true, false, false, true]⟩ := by
    cbv
  have cells : (1 : Int) ≤ 2 := by decide
  have positive : (1 : Int) ≤ 3 := by decide
  have granted : Host.large.grantsTape (2 : Int).toNat = true := by decide
  obtain ⟨engine, generator, created, fresh, agrees, -⟩ :=
    exists_agreesWith (.ofSource _ loads) resolved cells positive .large true [72, 105]
  obtain ⟨text, complete, source, generated, read, size, same⟩ := agrees granted
  exact ⟨loads, resolved, cells, positive, granted, engine, generator, text, complete, source,
    created, fresh, generated, read, size, same⟩

/--
On a tape that the host does not grant, the C source of the empty program finishes,
while the engine does not.
-/
theorem not_agreesWith_refusedTape :
    Program.load (.text "") = .ok (.ofOpcodes []) ∧
      ∃ engine generator text complete source,
        Engine.create .large (.ofOpcodes []) none 1152921504606846976 true
              Engine.defaultBatchSteps =
            .ok engine ∧
          Generator.create 1152921504606846976 = .ok generator ∧
          Generator.generate (.ofOpcodes []) generator = .ok text complete ∧
          TranslationUnit.ofText? text = some source ∧
          (∃ fuel state, source.run [] fuel = (.finished, state)) ∧
          ¬ ∃ machine left, engine.Concludes Channel.console (untouched []) (.ok machine) left := by
  have loads : Program.load (.text "") = .ok (.ofOpcodes []) := rfl
  have resolved : (Program.ofOpcodes []).resolveLoops = .ok ⟨#[], #[]⟩ := by cbv
  have cells : (1 : Int) ≤ 1152921504606846976 := by decide
  have positive : (1 : Int) ≤ Engine.defaultBatchSteps := by decide
  have numeral : Text.hasNumeral (1152921504606846976 : Int).toNat = true :=
    Text.hasNumeral_of_isSize (by decide)
  have refused : Host.large.newTape? (1152921504606846976 : Int).toNat = none :=
    if_neg (by decide)
  refine ⟨loads, _, _, _, _, _, create_engine resolved cells positive .large true,
    Generator.create_of_cells cells, Generator.generate_ofOpcodes resolved numeral,
    ofText?_text (1152921504606846976 : Int).toNat [], ⟨1, _, rfl⟩, ?_⟩
  rintro ⟨machine, left, concludes⟩
  have answers := ((Engine.concludes_of_refused _ refused).mp concludes).1
  cases answers

end Brainfuck.CSource
