import Brainfuck.Proofs.Console.Bytes
import Brainfuck.Proofs.Engine.Refusal
import Brainfuck.Proofs.Engine.Modes
import Brainfuck.Proofs.Session.Unresolved

namespace Brainfuck

/-!
# Running a program in a session

What a program comes to on a list of bytes depends neither on where the bytes are
read from nor on what takes the output, as long as it takes every byte, nor on
whether the program is run in batches.
-/

namespace Engine

variable
  {σ : Type}
  {engine : Engine}
  {console : Console σ}
  {state : State σ}
  {tape : Array UInt8}
  {channel : σ}

/-- A run has its console in a state on the way, or in the one behind a word that fails. -/
theorem exists_channel_leftBy_run_iff
    (granted : engine.host.newTape? engine.tapeSize = some tape) :
    (∃ fuel, (leftBy (engine.run console fuel state)).channel = channel) ↔
      (∃ machine, engine.RunPasses console state machine channel) ∨
        ∃ failure left,
          engine.Concludes console state (.error failure) left ∧ left.channel = channel := by
  simp only [channel_leftBy_run granted, runPasses_iff_passes granted, concludes_iff granted]
  constructor
  · rintro ⟨fuel, rfl⟩
    cases ended : (engine.execute console fuel (.start tape) state.channel).ending with
    | failed failure =>
        refine .inr ⟨failure, _, ⟨fuel, ?_, rfl⟩, rfl⟩
        rw [answer?, ended]
    | finished | unfinished =>
        refine .inl ⟨_, .between fuel fun failure => ?_⟩
        rw [ended]
        exact Ending.noConfusion
  · rintro (⟨_, passes⟩ | ⟨_, _, ⟨fuel, _, rfl⟩, rfl⟩)
    · cases passes with
      | between fuel | inside fuel =>
          exact ⟨fuel, rfl⟩
    · exact ⟨fuel, rfl⟩

end Engine

namespace Program

/--
What a program comes to on a host, on a tape of a number of cells and a list of bytes:
an answer, the bytes that are left, and those that were written.
-/
inductive ComesTo
    (program : Program)
    (host : Host)
    (cells : Nat)
    (input : List UInt8) :
    Outcome Machine → List UInt8 × Array UInt8 → Prop where
  | unresolved
      {failure : Failure}
      (unresolved : program.resolveLoops = .error failure) :
      ComesTo program host cells input (.error failure) (input, #[])
  | refused
      {table : JumpTable}
      (resolved : program.resolveLoops = .ok table)
      (refused : host.newTape? cells = none) :
      ComesTo program host cells input (.error (.tapeTooLarge cells)) (input, #[])
  | ends
      {table : JumpTable}
      {tape : Array UInt8}
      {count : Nat}
      {ending : Ending}
      {last : Machine}
      {kept : List UInt8 × Array UInt8}
      {answer : Outcome Machine}
      (resolved : program.resolveLoops = .ok table)
      (granted : host.newTape? cells = some tape)
      (ends :
        Machine.Ends (.keeping nextByte) program table count (.start tape) (input, #[]) ending
          last kept)
      (answers : Engine.answer? ⟨ending, last, kept, #[]⟩ = some answer) :
      ComesTo program host cells input answer kept

/-- Which bytes are left and which are written at some time of a run on a list of bytes. -/
inductive ComesBy
    (program : Program)
    (host : Host)
    (cells : Nat)
    (input : List UInt8) :
    List UInt8 × Array UInt8 → Prop where
  | begun :
      ComesBy program host cells input (input, #[])
  | path
      {table : JumpTable}
      {tape : Array UInt8}
      {count : Nat}
      {machine : Machine}
      {kept : List UInt8 × Array UInt8}
      (resolved : program.resolveLoops = .ok table)
      (granted : host.newTape? cells = some tape)
      (path :
        Machine.Path (.keeping nextByte) program table count (.start tape) (input, #[]) machine
          kept) :
      ComesBy program host cells input kept
  | failed
      {failure : Failure}
      {kept : List UInt8 × Array UInt8}
      (fails : ComesTo program host cells input (.error failure) kept) :
      ComesBy program host cells input kept

/-- Where a program cannot be begun, nothing is read or written. -/
theorem ComesBy.eq_begun
    {program : Program}
    {host : Host}
    {cells : Nat}
    {input : List UInt8}
    {kept : List UInt8 × Array UInt8}
    (comes : program.ComesBy host cells input kept)
    (never : ∀ table tape,
      program.resolveLoops = .ok table → host.newTape? cells ≠ some tape) :
    kept = (input, #[]) := by
  cases comes with
  | begun =>
      rfl
  | path resolved granted =>
      exact absurd granted (never _ _ resolved)
  | failed fails =>
      cases fails with
      | unresolved | refused =>
          rfl
      | ends resolved granted =>
          exact absurd granted (never _ _ resolved)

end Program

namespace Session

/-- The session that an action leaves behind. -/
def leftBy
    {α : Type} :
    EStateM.Result Failure Session α → Session
  | .ok _ left => left
  | .error _ left => left

/-- The result of a run that has come to an answer. -/
def resultOf
    (left : Session) :
    Outcome Machine → EStateM.Result Failure Session (Option Machine)
  | .ok machine => .ok (some machine) left
  | .error failure => .error failure left

/-- Whether a run with enough fuel comes to an answer and leaves a channel. -/
def RunEnds
    (session : Session)
    (program : Program)
    (options : RunOptions)
    (answer : Outcome Machine)
    (channel : Channel) :
    Prop :=
  ∃ fuel left,
    runProgram program options fuel session = resultOf left answer ∧ left.channel = channel

/-- Whether a run with some amount of fuel leaves a channel. -/
def RunLeaves
    (session : Session)
    (program : Program)
    (options : RunOptions)
    (channel : Channel) :
    Prop :=
  ∃ fuel, (leftBy (runProgram program options fuel session)).channel = channel

/-- The engine on a host for a program whose loops are resolved. -/
def engineFor
    (host : Host)
    (program : Program)
    (table : JumpTable)
    (options : RunOptions) :
    Engine where
  program := program
  table := table
  tapeSize := options.tapeSize
  batched := options.batched
  batchSteps := options.batchSteps
  host := host

variable
  {program : Program}
  {table : JumpTable}
  {tape : Array UInt8}
  {options : RunOptions}
  {session : Session}
  {answer : Outcome Machine}
  {channel : Channel}

/-- Once its loops are resolved, a program is run by an engine. -/
theorem runProgram_of_resolved
    (resolved : program.resolveLoops = .ok table)
    (options : RunOptions)
    (fuel : Nat)
    (session : Session) :
    runProgram program options fuel session =
      runEngine (engineFor session.host program table options) fuel
        { session with
          journal := session.journal.push
            (.notice (.loopsResolved (program.countOpcode .loopOpen) program.size)) } := by
  have resolves :
      resolveLoops program session =
        .ok table
          { session with
            journal := session.journal.push
              (.notice (.loopsResolved (program.countOpcode .loopOpen) program.size)) } := by
    unfold resolveLoops
    rw [bind_of_ok (lift_of_ok resolved session)]
    rfl
  unfold runProgram
  rw [bind_of_ok resolves]
  rfl

/-- An engine answers in a session as it does by itself. -/
theorem runEngine_eq_resultOf_iff
    (engine : Engine)
    (fuel : Nat)
    (session : Session) :
    (∃ left, runEngine engine fuel session = resultOf left answer ∧ left.channel = channel) ↔
      ∃ left,
        Engine.conclusion? (engine.run Channel.console fuel (.initial session.channel)) =
            some (answer, left) ∧
          left.channel = channel := by
  unfold runEngine
  cases engine.run Channel.console fuel (.initial session.channel) with
  | error failure state =>
      constructor
      · rintro ⟨left, ends, rfl⟩
        cases answer <;> cases ends
        exact ⟨_, rfl, rfl⟩
      · rintro ⟨left, ends, rfl⟩
        cases ends
        exact ⟨_, rfl, rfl⟩
  | ok last state =>
      cases last with
      | none =>
          constructor
          · rintro ⟨left, ends, rfl⟩
            cases answer <;> cases ends
          · rintro ⟨left, ends, rfl⟩
            cases ends
      | some machine =>
          constructor
          · rintro ⟨left, ends, rfl⟩
            cases answer <;> cases ends
            exact ⟨_, rfl, rfl⟩
          · rintro ⟨left, ends, rfl⟩
            cases ends
            exact ⟨_, rfl, rfl⟩

theorem channel_leftBy_runEngine
    (engine : Engine)
    (fuel : Nat)
    (session : Session) :
    (leftBy (runEngine engine fuel session)).channel =
      (Engine.leftBy (engine.run Channel.console fuel (.initial session.channel))).channel := by
  unfold runEngine
  cases engine.run Channel.console fuel (.initial session.channel) <;> rfl

theorem runEnds_iff_concludes (resolved : program.resolveLoops = .ok table) :
    session.RunEnds program options answer channel ↔
      ∃ left,
        (engineFor session.host program table options).Concludes Channel.console
          (.initial session.channel) answer left ∧ left.channel = channel := by
  unfold RunEnds Engine.Concludes
  simp only [runProgram_of_resolved resolved, runEngine_eq_resultOf_iff]
  constructor
  · rintro ⟨fuel, left, concludes, same⟩
    exact ⟨left, ⟨fuel, concludes⟩, same⟩
  · rintro ⟨left, ⟨fuel, concludes⟩, same⟩
    exact ⟨fuel, left, concludes, same⟩

theorem runLeaves_iff (resolved : program.resolveLoops = .ok table) :
    session.RunLeaves program options channel ↔
      ∃ fuel,
        (Engine.leftBy
          ((engineFor session.host program table options).run Channel.console fuel
            (.initial session.channel))).channel = channel := by
  unfold RunLeaves
  simp only [runProgram_of_resolved resolved, channel_leftBy_runEngine]

theorem table_serves
    (resolved : program.resolveLoops = .ok table)
    (host : Host)
    (options : RunOptions) :
    (engineFor host program table options).table.Serves
      (engineFor host program table options).program :=
  (Program.matches_of_resolveLoops resolved).2.serves

theorem acceptsAll_of_takesAll
    {device : Array UInt8 → Output}
    {before : Array UInt8}
    (takes : Output.TakesAll device before)
    (engine : Engine)
    (input : List UInt8)
    (tape : Array UInt8) :
    engine.AcceptsAll nextByte input tape device :=
  fun _ _ _ _ _ => takes.accepts _ _

/-- The state that a run begins in, with the two sides of its channel told apart. -/
theorem initial_eq_joined
    {join : List UInt8 → Output → Channel}
    {device : Array UInt8 → Output}
    {input : List UInt8}
    (talks : session.channel = join input (device #[])) :
    Engine.State.initial session.channel =
      { Engine.State.initial session.channel with channel := join input (device #[]) } := by
  rw [← talks]
  rfl

section

variable
  {join : List UInt8 → Output → Channel}
  {device : Array UInt8 → Output}
  {before : Array UInt8}
  {input : List UInt8}
  (connects : Channel.console.Connects nextByte join)
  (takes : Output.TakesAll device before)
  (positive : 0 < options.batchSteps)
  (talks : session.channel = join input (device #[]))

include connects takes positive talks

theorem concludes_iff_kept
    (resolved : program.resolveLoops = .ok table)
    (granted : session.host.newTape? options.tapeSize = some tape)
    (left : Engine.State Channel) :
    (engineFor session.host program table options).Concludes Channel.console
        (.initial session.channel) answer left ↔
      ∃ count ending last kept,
        Engine.answer? ⟨ending, last, kept, #[]⟩ = some answer ∧
          left = .behind last (onDevice join device kept) ∧
          Machine.Ends (.keeping nextByte) program table count (.start tape) (input, #[]) ending
            last kept := by
  rw [initial_eq_joined talks]
  exact Engine.concludes_iff_keeping connects positive
    (table_serves resolved session.host options) granted (acceptsAll_of_takesAll takes _ input tape)

theorem runPasses_iff_kept
    (resolved : program.resolveLoops = .ok table)
    (granted : session.host.newTape? options.tapeSize = some tape)
    (machine : Machine) :
    (engineFor session.host program table options).RunPasses Channel.console
        (.initial session.channel) machine channel ↔
      ∃ count kept, channel = onDevice join device kept ∧
        Machine.Path (.keeping nextByte) program table count (.start tape) (input, #[]) machine
          kept := by
  rw [initial_eq_joined talks]
  exact Engine.runPasses_iff_keeping connects positive
    (table_serves resolved session.host options) granted (acceptsAll_of_takesAll takes _ input tape)

/-- A run ends as its program does on the bytes, whatever takes the output. -/
theorem runEnds_iff_comesTo :
    session.RunEnds program options answer channel ↔
      ∃ kept, channel = onDevice join device kept ∧
        program.ComesTo session.host options.tapeSize input answer kept := by
  have begun : session.channel = onDevice join device (input, #[]) := talks
  cases resolved : program.resolveLoops with
  | error failure =>
      unfold RunEnds
      simp only [runProgram_of_unresolved resolved]
      constructor
      · rintro ⟨_, left, ends, rfl⟩
        cases answer <;> cases ends
        exact ⟨_, begun, .unresolved resolved⟩
      · rintro ⟨kept, rfl, comes⟩
        cases comes with
        | unresolved unresolved =>
            rw [resolved] at unresolved
            cases unresolved
            exact ⟨0, session, rfl, begun⟩
        | refused found | ends found =>
            rw [resolved] at found
            cases found
  | ok table =>
      rw [runEnds_iff_concludes resolved]
      cases granted : session.host.newTape? options.tapeSize with
      | none =>
          have refused :
              (engineFor session.host program table options).host.newTape?
                (engineFor session.host program table options).tapeSize = none :=
            granted
          simp only [Engine.concludes_of_refused _ refused]
          constructor
          · rintro ⟨_, ⟨rfl, rfl⟩, rfl⟩
            exact ⟨_, begun, .refused resolved granted⟩
          · rintro ⟨kept, rfl, comes⟩
            cases comes with
            | unresolved unresolved =>
                rw [resolved] at unresolved
                cases unresolved
            | refused =>
                exact ⟨_, ⟨rfl, rfl⟩, begun⟩
            | ends _ found =>
                rw [granted] at found
                cases found
      | some tape =>
          simp only [concludes_iff_kept connects takes positive talks resolved granted]
          constructor
          · rintro ⟨_, ⟨count, ending, last, kept, answers, rfl, ends⟩, rfl⟩
            exact ⟨kept, rfl, .ends resolved granted ends answers⟩
          · rintro ⟨kept, rfl, comes⟩
            cases comes with
            | unresolved unresolved =>
                rw [resolved] at unresolved
                cases unresolved
            | refused _ refused =>
                rw [granted] at refused
                cases refused
            | ends same found ends answers =>
                rw [resolved] at same
                cases same
                rw [granted] at found
                cases found
                exact ⟨_, ⟨_, _, _, kept, answers, rfl, ends⟩, rfl⟩

/-- A run leaves what its program comes by on the bytes, whatever takes the output. -/
theorem runLeaves_iff_comesBy :
    session.RunLeaves program options channel ↔
      ∃ kept, channel = onDevice join device kept ∧
        program.ComesBy session.host options.tapeSize input kept := by
  have begun : session.channel = onDevice join device (input, #[]) := talks
  cases resolved : program.resolveLoops with
  | error failure =>
      have stays (fuel : Nat) :
          (leftBy (runProgram program options fuel session)).channel = session.channel := by
        rw [runProgram_of_unresolved resolved]
        rfl
      simp only [RunLeaves, stays, exists_const]
      constructor
      · rintro rfl
        exact ⟨_, begun, .begun⟩
      · rintro ⟨kept, rfl, comes⟩
        rw [comes.eq_begun fun table _ found => by rw [resolved] at found; cases found]
        exact begun
  | ok table =>
      rw [runLeaves_iff resolved]
      cases granted : session.host.newTape? options.tapeSize with
      | none =>
          have refused :
              (engineFor session.host program table options).host.newTape?
                (engineFor session.host program table options).tapeSize = none :=
            granted
          simp only [Engine.run, refused, Engine.leftBy, exists_const]
          constructor
          · rintro rfl
            exact ⟨_, begun, .begun⟩
          · rintro ⟨kept, rfl, comes⟩
            rw [comes.eq_begun fun _ tape _ found => by rw [granted] at found; cases found]
            exact begun
      | some tape =>
          rw [Engine.exists_channel_leftBy_run_iff granted]
          simp only [runPasses_iff_kept connects takes positive talks resolved granted,
            ← runEnds_iff_concludes resolved,
            runEnds_iff_comesTo connects takes positive talks]
          constructor
          · rintro (⟨_, _, kept, same, path⟩ | ⟨_, kept, same, comes⟩)
            · exact ⟨kept, same, .path resolved granted path⟩
            · exact ⟨kept, same, .failed comes⟩
          · rintro ⟨kept, same, comes⟩
            cases comes with
            | begun =>
                exact .inl ⟨_, 0, _, same, .refl _ _⟩
            | path found otherTape path =>
                rw [resolved] at found
                cases found
                rw [granted] at otherTape
                cases otherTape
                exact .inl ⟨_, _, kept, same, path⟩
            | failed comes =>
                exact .inr ⟨_, kept, same, comes⟩

end

/--
Whether a session serves a list of bytes as input and takes every byte of output, behind
those that were written before.
-/
inductive Serves
    (session : Session)
    (input : List UInt8)
    (before : Array UInt8) :
    Prop where
  | intro
      {join : List UInt8 → Output → Channel}
      {device : Array UInt8 → Output}
      (connects : Channel.console.Connects nextByte join)
      (output : ∀ rest output, (join rest output).output = output)
      (takes : Output.TakesAll device before)
      (talks : session.channel = join input (device #[])) :
      Serves session input before

namespace Serves

variable
  {input : List UInt8}
  {before bytes : Array UInt8}
  (serves : session.Serves input before)
  (positive : 0 < options.batchSteps)

include serves positive

theorem exists_comesTo (ends : session.RunEnds program options answer channel) :
    ∃ kept, program.ComesTo session.host options.tapeSize input answer kept ∧
      channel.output.bytes = before ++ kept.2 := by
  obtain ⟨connects, output, takes, talks⟩ := serves
  obtain ⟨kept, rfl, comes⟩ := (runEnds_iff_comesTo connects takes positive talks).mp ends
  refine ⟨kept, comes, ?_⟩
  rw [onDevice, output, takes.holds]

theorem exists_runEnds
    {kept : List UInt8 × Array UInt8}
    (comes : program.ComesTo session.host options.tapeSize input answer kept) :
    ∃ channel, session.RunEnds program options answer channel ∧
      channel.output.bytes = before ++ kept.2 := by
  obtain ⟨connects, output, takes, talks⟩ := serves
  refine ⟨_, (runEnds_iff_comesTo connects takes positive talks).mpr ⟨kept, rfl, comes⟩, ?_⟩
  rw [onDevice, output, takes.holds]

theorem runLeaves_iff :
    (∃ channel, session.RunLeaves program options channel ∧
      channel.output.bytes = before ++ bytes) ↔
      ∃ kept, program.ComesBy session.host options.tapeSize input kept ∧ kept.2 = bytes := by
  obtain ⟨connects, output, takes, talks⟩ := serves
  simp only [runLeaves_iff_comesBy connects takes positive talks]
  constructor
  · rintro ⟨_, ⟨kept, rfl, comes⟩, same⟩
    rw [onDevice, output, takes.holds] at same
    exact ⟨kept, comes, Array.append_right_inj before |>.mp same⟩
  · rintro ⟨kept, comes, rfl⟩
    refine ⟨_, ⟨kept, rfl, comes⟩, ?_⟩
    rw [onDevice, output, takes.holds]

end Serves

/-- A result of a run is unfinished, or it has come to an answer. -/
theorem eq_resultOf_or (result : EStateM.Result Failure Session (Option Machine)) :
    (∃ left, result = .ok none left) ∨ ∃ answer left, result = resultOf left answer := by
  cases result with
  | error failure left =>
      exact .inr ⟨.error failure, left, rfl⟩
  | ok last left =>
      cases last with
      | none =>
          exact .inl ⟨left, rfl⟩
      | some machine =>
          exact .inr ⟨.ok machine, left, rfl⟩

end Session

end Brainfuck
