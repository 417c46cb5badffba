import Brainfuck.Proofs.CommandLine.Unresolved
import Brainfuck.Proofs.Session.Failing
import Brainfuck.Proofs.Session.Reading

namespace Brainfuck

/-!
# Interpreting from the command line

Interpreting a program from the command line does what the library does with its
source, on a stream instead of memory: it writes the same bytes, and its status
tells how the run ended.  What is reported about the run goes to the error stream
only.
-/

namespace Session

variable
  {session : Session}
  {action other : Action Unit}

/-- The result of an action, with another journal in the session that it leaves. -/
def withJournal
    {α : Type}
    (journal : Array Entry) :
    EStateM.Result Failure Session α → EStateM.Result Failure Session α
  | .ok value left => .ok value { left with journal }
  | .error failure left => .error failure { left with journal }

/-- Whether an action adds to the journal at most. -/
def OnlyTells (action : Action Unit) : Prop :=
  ∀ session, ∃ journal, action session = .ok () { session with journal }

theorem onlyTells_tell (text : String) : OnlyTells (tell text) :=
  fun _ => ⟨_, rfl⟩

theorem OnlyTells.bind
    (first : OnlyTells action)
    (next : OnlyTells other) :
    OnlyTells (action >>= fun _ => other) := by
  intro session
  obtain ⟨journal, tells⟩ := first session
  obtain ⟨longer, tellsMore⟩ := next { session with journal }
  exact ⟨longer, (bind_of_ok tells).trans tellsMore⟩

theorem onlyTells_forM
    {α : Type}
    (items : List α)
    (line : α → String) :
    OnlyTells (items.forM fun item => tell (line item)) := by
  induction items with
  | nil =>
      exact fun session => ⟨session.journal, rfl⟩
  | cons item rest inductionHypothesis =>
      exact (onlyTells_tell (line item)).bind inductionHypothesis

/-- What a program does has nothing to do with the journal of the session. -/
theorem runProgram_withJournal
    (program : Program)
    (options : RunOptions)
    (fuel : Nat)
    (session : Session)
    (journal : Array Entry) :
    ∃ longer,
      runProgram program options fuel { session with journal } =
        withJournal longer (runProgram program options fuel session) := by
  cases resolved : program.resolveLoops with
  | error failure =>
      refine ⟨journal, ?_⟩
      rw [runProgram_of_unresolved resolved, runProgram_of_unresolved resolved]
      rfl
  | ok table =>
      rw [runProgram_of_resolved resolved, runProgram_of_resolved resolved]
      unfold runEngine
      cases Engine.run (engineFor session.host program table options) Channel.console fuel
        (.initial session.channel) <;>
        exact ⟨_, rfl⟩

/-- A source at hand is loaded, and nothing but a notice tells of it. -/
theorem runSource_eq
    (source : Source)
    (options : RunOptions)
    (fuel : Nat)
    (session : Session) :
    ∃ journal,
      runSource source options fuel session =
        withJournal journal
          (runProgram (.ofOpcodes (Buffer.commands source.toBytes)) options fuel session) := by
  have loads : ∃ journal,
      loadSource source session =
        .ok (.ofOpcodes (Buffer.commands source.toBytes)) { session with journal } := by
    unfold loadSource
    rw [bind_of_ok (lift_of_ok (Program.load_eq source) session)]
    exact ⟨_, rfl⟩
  obtain ⟨journal, loads⟩ := loads
  unfold runSource
  rw [bind_of_ok loads]
  exact runProgram_withJournal _ options fuel session journal

theorem exists_withJournal_iff
    (journal : Array Entry)
    (result : EStateM.Result Failure Session (Option Machine))
    (answer : Outcome Machine)
    (channel : Channel) :
    (∃ left, withJournal journal result = resultOf left answer ∧ left.channel = channel) ↔
      ∃ left, result = resultOf left answer ∧ left.channel = channel := by
  cases answer <;> cases result <;> simp [withJournal, resultOf]

theorem channel_leftBy_withJournal
    {α : Type}
    (journal : Array Entry)
    (result : EStateM.Result Failure Session α) :
    (leftBy (withJournal journal result)).channel = (leftBy result).channel := by
  cases result <;> rfl

/-- A source that is run comes to what its program comes to. -/
theorem exists_runSource_iff
    (source : Source)
    (options : RunOptions)
    (fuel : Nat)
    (session : Session)
    (answer : Outcome Machine)
    (channel : Channel) :
    (∃ left,
      runSource source options fuel session = resultOf left answer ∧ left.channel = channel) ↔
      ∃ left,
        runProgram (.ofOpcodes (Buffer.commands source.toBytes)) options fuel session =
            resultOf left answer ∧
          left.channel = channel := by
  obtain ⟨journal, ran⟩ := runSource_eq source options fuel session
  rw [ran, exists_withJournal_iff]

end Session

namespace CommandLine

open Session (leftBy withJournal)

/-- Whether the program at an origin can be read, and the source that it consists of. -/
inductive Origin.Holds (session : Session) : Origin → Source → Prop where
  | parsed (text : String) :
      Origin.Holds session (.parsed text) (.text text)
  | file
      {name : String}
      {content : List UInt8}
      (free : '\x00' ∉ name.toList)
      (readable : session.files.read (.ofText name) = .ok content) :
      Origin.Holds session (.file name) (.bytes content)

/-- The result of interpreting where the run has a result. -/
def statusAfter :
    EStateM.Result Failure Session (Option Machine) →
      EStateM.Result Failure Session (Option Int)
  | .ok last left => .ok (last.map fun _ => statusOk) left
  | .error failure left => .error failure left

/-- The options with which the command line runs a program, or those in another mode. -/
def optionsFor
    (tapeSize : Int)
    (batched : Bool) :
    RunOptions where
  tapeSize := tapeSize.toNat
  batched := batched
  batchSteps := Engine.defaultBatchSteps.toNat

/--
Whether the end of a command line is that of a run of the library, with the same bytes
behind those that its output had before.
-/
inductive EndsLike
    (before : Array UInt8)
    (result : Result) :
    EStateM.Result Failure Session (Option Machine) → Prop where
  | returned
      {machine : Machine}
      {left : Session}
      (status : result.exit = .returned 0)
      (bytes :
        result.session.channel.output.bytes = before ++ left.channel.output.bytes) :
      EndsLike before result (.ok (some machine) left)
  | reported
      {failure : Failure}
      {left : Session}
      (known : failure.isReported = true)
      (status : result.exit = .returned 2)
      (message : ∃ earlier, result.errorText = earlier ++ (failure.message ++ "\n"))
      (bytes :
        result.session.channel.output.bytes = before ++ left.channel.output.bytes) :
      EndsLike before result (.error failure left)
  | escaped
      {failure : Failure}
      {left : Session}
      (unknown : failure.isReported = false)
      (status : result.exit = .raised failure)
      (bytes :
        result.session.channel.output.bytes = before ++ left.channel.output.bytes) :
      EndsLike before result (.error failure left)

/--
How a command line, given some amount of fuel, compares with a run of the library, given
some amount of fuel that need not be the same.
-/
structure ComparesWithLibrary
    (main : Nat → Result)
    (library : Nat → EStateM.Result Failure Session (Option Machine))
    (before : Array UInt8) :
    Prop where
  /-- Where the command line comes to an end, so does the library, and to the same one. -/
  ends : ∀ fuel,
    (main fuel).exit = .unfinished ∨ ∃ more, EndsLike before (main fuel) (library more)
  /-- Where the library comes to an end, so does the command line, and to the same one. -/
  answers : ∀ fuel,
    (∃ left, library fuel = .ok none left) ∨ ∃ more, EndsLike before (main more) (library fuel)
  /-- Both come by the same bytes, whether they end or not. -/
  writes : ∀ bytes,
    (∃ fuel, (main fuel).session.channel.output.bytes = before ++ bytes) ↔
      ∃ fuel, (leftBy (library fuel)).channel.output.bytes = bytes
  /-- The status is zero exactly where the library returns. -/
  succeeds :
    (∃ fuel, (main fuel).exit = .returned 0) ↔
      ∃ fuel machine left, library fuel = .ok (some machine) left
  /-- The status is two exactly where the library fails as the command line reports. -/
  fails :
    (∃ fuel, (main fuel).exit = .returned 2) ↔
      ∃ fuel failure left, library fuel = .error failure left ∧ failure.isReported = true
  /-- The command line goes on for ever exactly where the library does. -/
  diverges :
    (∀ fuel, (main fuel).exit = .unfinished) ↔ ∀ fuel, ∃ left, library fuel = .ok none left

/-- Whether a session reads bytes from a stream and writes to one that accepts every write. -/
structure Streams
    (session : Session)
    (input : List UInt8) :
    Prop where
  input : session.channel.input = .ofStream (.bytes input)
  output : ∃ flushing recorder,
    session.channel.output = .stream flushing recorder ∧
      recorder.writeLimit = none ∧ recorder.flushLimit = none

/-- How a command line that interprets compares with the library, and with its likes. -/
structure InterpretsLikeLibrary
    (words : List String)
    (arguments : Arguments)
    (tapeSize : Int)
    (source : Source)
    (input : List UInt8)
    (session : Session) :
    Prop where
  /-- It compares with a run on memory, in either mode, in any session on the same host. -/
  library : ∀ (other : Session) (batched : Bool),
    ComparesWithLibrary (fun fuel => run words fuel session)
      (fun fuel => Session.runSource source (optionsFor tapeSize batched) fuel
        { other with host := session.host, channel := .fromMemory input .empty })
      session.channel.output.bytes
  /-- Statistics and notices change nothing but what goes to the error stream. -/
  quiet : ∀ (likewise : List String) (stats verbose : Bool) (fuel : Nat),
    parseArguments likewise = .ok { arguments with stats, verbose } →
      (run likewise fuel session).exit = (run words fuel session).exit ∧
        ∃ journal,
          (run likewise fuel session).session =
            { (run words fuel session).session with journal }

variable
  {arguments : Arguments}
  {tapeSize : Int}
  {origin : Origin}
  {source : Source}
  {session : Session}
  {words : List String}

theorem load_of_holds (holds : origin.Holds session source) :
    ∃ journal,
      load origin session =
        .ok (.ofOpcodes (Buffer.commands source.toBytes)) { session with journal } := by
  cases holds with
  | parsed text =>
      unfold load Session.loadSource
      dsimp only
      rw [Session.bind_of_ok (Session.lift_of_ok (Program.load_eq (.text text)) session)]
      exact ⟨_, rfl⟩
  | file free readable =>
      unfold load
      dsimp only
      rw [Session.loadFile_eq_read (File.Path.isPlain_ofText free)
        session.host.canRead_defaultChunkSize, readable]
      exact ⟨_, rfl⟩

theorem onlyTells_reportRun (machine : Machine) : Session.OnlyTells (reportRun machine) := by
  intro session
  exact ((Session.onlyTells_tell _).bind (Session.onlyTells_forM _ dumpLine)) session

/-- What is interpreted ends as the run of its program, and may report about it. -/
theorem interpret_eq
    (cells : 1 ≤ tapeSize)
    (arguments : Arguments)
    (program : Program)
    (fuel : Nat)
    (session : Session) :
    ∃ journal,
      interpret arguments tapeSize program fuel session =
        withJournal journal
          (statusAfter
            (Session.runProgram program (optionsFor tapeSize !arguments.noJit) fuel
              session)) := by
  have created := RunOptions.create_of_positive cells
    (show 1 ≤ Engine.defaultBatchSteps by decide) (!arguments.noJit)
  unfold interpret
  rw [Session.bind_of_ok (Session.lift_of_ok created session)]
  cases ran : Session.runProgram program (optionsFor tapeSize !arguments.noJit) fuel session with
  | error failure left =>
      exact ⟨left.journal, Session.bind_of_error ran⟩
  | ok last left =>
      cases last with
      | none =>
          exact ⟨left.journal, Session.bind_of_ok ran⟩
      | some machine =>
          cases arguments.stats with
          | false =>
              exact ⟨left.journal, Session.bind_of_ok ran⟩
          | true =>
              obtain ⟨journal, tells⟩ := onlyTells_reportRun machine left
              exact ⟨journal, (Session.bind_of_ok ran).trans (Session.bind_of_ok tells)⟩

/-- The same, where the journal of the session is another one. -/
theorem interpret_withJournal
    (cells : 1 ≤ tapeSize)
    (arguments : Arguments)
    (program : Program)
    (fuel : Nat)
    (session : Session)
    (journal : Array Entry) :
    ∃ longer,
      interpret arguments tapeSize program fuel { session with journal } =
        withJournal longer
          (statusAfter
            (Session.runProgram program (optionsFor tapeSize !arguments.noJit) fuel
              session)) := by
  obtain ⟨longer, interpreted⟩ :=
    interpret_eq cells arguments program fuel { session with journal }
  obtain ⟨_, ran⟩ := Session.runProgram_withJournal program
    (optionsFor tapeSize !arguments.noJit) fuel session journal
  refine ⟨longer, ?_⟩
  rw [interpreted, ran]
  cases Session.runProgram program (optionsFor tapeSize !arguments.noJit) fuel session <;> rfl

/-- What the arguments ask for is the run of the program, but for the journal. -/
theorem perform_eq
    (cells : 1 ≤ tapeSize)
    (interprets : arguments.transpiles = false)
    (holds : origin.Holds session source)
    (fuel : Nat) :
    ∃ journal,
      perform arguments tapeSize origin fuel session =
        withJournal journal
          (statusAfter
            (Session.runProgram (.ofOpcodes (Buffer.commands source.toBytes))
              (optionsFor tapeSize !arguments.noJit) fuel session)) := by
  obtain ⟨journal, loads⟩ := load_of_holds holds
  unfold perform
  rw [Session.bind_of_ok loads]
  simp only [interprets, Bool.false_eq_true, ↓reduceIte]
  cases arguments.stats with
  | false =>
      exact interpret_withJournal cells arguments _ fuel session journal
  | true =>
      exact interpret_withJournal cells arguments _ fuel session _

/-- How the program ends behind a run with a result. -/
def exitAfter : EStateM.Result Failure Session (Option Machine) → Exit
  | .ok (some _) _ => .returned statusOk
  | .ok none _ => .unfinished
  | .error failure _ =>
      if failure.isReported then .returned (statusOf failure) else .raised failure

/-- How a command line ends behind the run of its program. -/
structure Result.EndsAfter
    (result : Result)
    (ran : EStateM.Result Failure Session (Option Machine)) :
    Prop where
  exit : result.exit = exitAfter ran
  session : ∃ journal, result.session = { leftBy ran with journal }
  message : ∀ failure left, ran = .error failure left → failure.isReported = true →
    ∃ earlier, result.errorText = earlier ++ (failure.message ++ "\n")

theorem run_endsAfter
    (parsed : parseArguments words = .ok arguments)
    (asked : arguments.AskFor origin tapeSize)
    (interprets : arguments.transpiles = false)
    (holds : origin.Holds session source)
    (fuel : Nat) :
    (run words fuel session).EndsAfter
      (Session.runProgram (.ofOpcodes (Buffer.commands source.toBytes))
        (optionsFor tapeSize !arguments.noJit) fuel session) := by
  obtain ⟨journal, performed⟩ := perform_eq asked.cells interprets holds fuel
  rw [asked.run_eq_runOrigin parsed]
  unfold runOrigin
  rw [performed]
  cases Session.runProgram (.ofOpcodes (Buffer.commands source.toBytes))
      (optionsFor tapeSize !arguments.noJit) fuel session with
  | ok last left =>
      refine ⟨?_, ?_, ?_⟩
      · cases last <;> rfl
      · cases last <;> exact ⟨_, rfl⟩
      · intro _ _ same
        cases same
  | error failure left =>
      cases known : failure.isReported with
      | false =>
          simp only [statusAfter, withJournal, known, Bool.false_eq_true, ↓reduceIte]
          refine ⟨?_, ⟨_, rfl⟩, ?_⟩
          · simp only [exitAfter, known, Bool.false_eq_true, ↓reduceIte]
          · intro _ _ same reported
            cases same
            rw [known] at reported
            cases reported
      | true =>
          simp only [statusAfter, withJournal, known, ↓reduceIte]
          refine ⟨?_, ⟨_, rfl⟩, ?_⟩
          · simp only [exitAfter, known, ↓reduceIte]
          · intro _ _ same _
            cases same
            exact ⟨_, errorText_say _ _ _ _⟩

/-- An end of a command line is one of the library, if both come to one answer. -/
theorem Result.EndsAfter.endsLike
    {result : Result}
    {answer : Outcome Machine}
    {left other : Session}
    {before : Array UInt8}
    (ends : result.EndsAfter (Session.resultOf left answer))
    (known : ∀ failure, answer = .error failure → failure.isToolchain = false)
    (bytes : left.channel.output.bytes = before ++ other.channel.output.bytes) :
    EndsLike before result (Session.resultOf other answer) := by
  obtain ⟨exit, ⟨journal, same⟩, message⟩ := ends
  have written :
      result.session.channel.output.bytes = before ++ other.channel.output.bytes := by
    rw [same, ← bytes]
    cases answer <;> rfl
  cases answer with
  | ok machine =>
      exact .returned exit written
  | error failure =>
      cases reported : failure.isReported with
      | false =>
          refine .escaped reported (exit.trans ?_) written
          simp only [Session.resultOf, exitAfter, reported, Bool.false_eq_true, ↓reduceIte]
      | true =>
          refine .reported reported (exit.trans ?_) (message failure left rfl reported) written
          simp only [Session.resultOf, exitAfter, reported, ↓reduceIte, statusOf,
            known failure rfl, Bool.false_eq_true]
          rfl

section

variable
  {before : Array UInt8}
  {result : Result}
  {ran : EStateM.Result Failure Session (Option Machine)}

theorem EndsLike.returned_iff (same : EndsLike before result ran) :
    result.exit = .returned 0 ↔ ∃ machine left, ran = .ok (some machine) left := by
  cases same with
  | returned status =>
      simp [status]
  | reported _ status | escaped _ status =>
      simp [status]

theorem EndsLike.reported_iff (same : EndsLike before result ran) :
    result.exit = .returned 2 ↔
      ∃ failure left, ran = .error failure left ∧ failure.isReported = true := by
  cases same with
  | returned status =>
      simp [status]
  | reported known status =>
      simp [status, known]
  | escaped unknown status =>
      simp [status, unknown]

theorem EndsLike.ended (same : EndsLike before result ran) :
    result.exit ≠ .unfinished ∧ ∀ left, ran ≠ .ok none left := by
  cases same with
  | returned status | reported _ status | escaped _ status =>
      simp [status]

end

/-- What is told of ends is enough to compare a command line with the library. -/
theorem comparesWithLibrary_of_ends
    {main : Nat → Result}
    {library : Nat → EStateM.Result Failure Session (Option Machine)}
    {before : Array UInt8}
    (ends : ∀ fuel,
      (main fuel).exit = .unfinished ∨ ∃ more, EndsLike before (main fuel) (library more))
    (answers : ∀ fuel,
      (∃ left, library fuel = .ok none left) ∨
        ∃ more, EndsLike before (main more) (library fuel))
    (writes : ∀ bytes,
      (∃ fuel, (main fuel).session.channel.output.bytes = before ++ bytes) ↔
        ∃ fuel, (leftBy (library fuel)).channel.output.bytes = bytes) :
    ComparesWithLibrary main library before where
  ends := ends
  answers := answers
  writes := writes
  succeeds := by
    constructor
    · rintro ⟨fuel, status⟩
      rcases ends fuel with unfinished | ⟨more, same⟩
      · rw [unfinished] at status
        cases status
      · exact ⟨more, same.returned_iff.mp status⟩
    · rintro ⟨fuel, machine, left, ran⟩
      rcases answers fuel with ⟨_, unfinished⟩ | ⟨more, same⟩
      · rw [unfinished] at ran
        cases ran
      · exact ⟨more, same.returned_iff.mpr ⟨machine, left, ran⟩⟩
  fails := by
    constructor
    · rintro ⟨fuel, status⟩
      rcases ends fuel with unfinished | ⟨more, same⟩
      · rw [unfinished] at status
        cases status
      · exact ⟨more, same.reported_iff.mp status⟩
    · rintro ⟨fuel, failure, left, ran, known⟩
      rcases answers fuel with ⟨_, unfinished⟩ | ⟨more, same⟩
      · rw [unfinished] at ran
        cases ran
      · exact ⟨more, same.reported_iff.mpr ⟨failure, left, ran, known⟩⟩
  diverges := by
    constructor
    · intro never fuel
      rcases answers fuel with unfinished | ⟨more, same⟩
      · exact unfinished
      · exact absurd (never more) same.ended.1
    · intro never fuel
      rcases ends fuel with unfinished | ⟨more, same⟩
      · exact unfinished
      · obtain ⟨left, ran⟩ := never more
        exact absurd ran (same.ended.2 left)

theorem batchSteps_optionsFor
    (tapeSize : Int)
    (batched : Bool) :
    0 < (optionsFor tapeSize batched).batchSteps :=
  show 0 < Engine.defaultBatchSteps.toNat by decide

section

variable
  {input : List UInt8}
  {before : Array UInt8}
  {other : Session}
  {main : Nat → Result}
  {batched mode : Bool}
  (cells : 1 ≤ tapeSize)
  (ends : ∀ fuel,
    (main fuel).EndsAfter
      (Session.runProgram (.ofOpcodes (Buffer.commands source.toBytes))
        (optionsFor tapeSize mode) fuel session))
  (serves : session.Serves input before)
  (sameHost : other.host = session.host)
  (alsoServes : other.Serves input #[])

include cells ends in
/-- A run that has come to an answer is told as one of the library with that answer. -/
theorem endsLike_of_answer
    {fuel : Nat}
    {answer : Outcome Machine}
    {left last : Session}
    (ran :
      Session.runProgram (.ofOpcodes (Buffer.commands source.toBytes))
          (optionsFor tapeSize mode) fuel session = Session.resultOf left answer)
    (bytes : left.channel.output.bytes = before ++ last.channel.output.bytes) :
    EndsLike before (main fuel) (Session.resultOf last answer) := by
  have ended := ends fuel
  rw [ran] at ended
  refine ended.endsLike ?_ bytes
  rintro failure rfl
  have failing := Session.runFailure_of_runProgram (Program.toSource_ofOpcodes _)
    (show 0 < tapeSize.toNat by omega) (batchSteps_optionsFor tapeSize mode) ran
  exact failing.isToolchain_eq_false

include cells ends serves sameHost alsoServes

theorem endsLike_library (fuel : Nat) :
    (main fuel).exit = .unfinished ∨
      ∃ more, EndsLike before (main fuel)
        (Session.runSource source (optionsFor tapeSize batched) more other) := by
  rcases Session.eq_resultOf_or
      (Session.runProgram (.ofOpcodes (Buffer.commands source.toBytes))
        (optionsFor tapeSize mode) fuel session) with
    ⟨left, ran⟩ | ⟨answer, left, ran⟩
  · left
    rw [(ends fuel).exit, ran]
    rfl
  · right
    obtain ⟨kept, comes, bytes⟩ :=
      serves.exists_comesTo (batchSteps_optionsFor tapeSize mode) ⟨fuel, left, ran, rfl⟩
    rw [← sameHost] at comes
    obtain ⟨channel, ⟨more, answers⟩, same⟩ :=
      alsoServes.exists_runEnds (batchSteps_optionsFor tapeSize batched) comes
    obtain ⟨last, found, rfl⟩ :=
      (Session.exists_runSource_iff source _ more other answer channel).mpr answers
    refine ⟨more, ?_⟩
    rw [found]
    refine endsLike_of_answer cells ends ran ?_
    rw [bytes, same, Array.empty_append]

theorem endsLike_main (fuel : Nat) :
    (∃ left, Session.runSource source (optionsFor tapeSize batched) fuel other = .ok none left) ∨
      ∃ more, EndsLike before (main more)
        (Session.runSource source (optionsFor tapeSize batched) fuel other) := by
  rcases Session.eq_resultOf_or
      (Session.runSource source (optionsFor tapeSize batched) fuel other) with
    unfinished | ⟨answer, last, found⟩
  · exact .inl unfinished
  · right
    have answers := (Session.exists_runSource_iff source _ fuel other answer last.channel).mp
      ⟨last, found, rfl⟩
    obtain ⟨kept, comes, same⟩ :=
      alsoServes.exists_comesTo (batchSteps_optionsFor tapeSize batched) ⟨fuel, answers⟩
    rw [sameHost] at comes
    obtain ⟨_, ⟨more, left, ran, rfl⟩, bytes⟩ :=
      serves.exists_runEnds (batchSteps_optionsFor tapeSize mode) comes
    refine ⟨more, ?_⟩
    rw [found]
    refine endsLike_of_answer cells ends ran ?_
    rw [bytes, same, Array.empty_append]

omit cells in
theorem exists_bytes_iff (bytes : Array UInt8) :
    (∃ fuel, (main fuel).session.channel.output.bytes = before ++ bytes) ↔
      ∃ fuel,
        (leftBy (Session.runSource source (optionsFor tapeSize batched) fuel
          other)).channel.output.bytes = bytes := by
  let program := Program.ofOpcodes (Buffer.commands source.toBytes)
  have written (fuel : Nat) :
      (main fuel).session.channel =
        (leftBy (Session.runProgram program (optionsFor tapeSize mode) fuel
          session)).channel := by
    obtain ⟨_, same⟩ := (ends fuel).session
    rw [same]
  have sourced (fuel : Nat) :
      (leftBy (Session.runSource source (optionsFor tapeSize batched) fuel other)).channel =
        (leftBy (Session.runProgram program (optionsFor tapeSize batched) fuel
          other)).channel := by
    obtain ⟨_, ran⟩ := Session.runSource_eq source (optionsFor tapeSize batched) fuel other
    rw [ran, Session.channel_leftBy_withJournal]
  have leaves :
      (∃ channel, session.RunLeaves program (optionsFor tapeSize mode) channel ∧
        channel.output.bytes = before ++ bytes) ↔
        ∃ channel, other.RunLeaves program (optionsFor tapeSize batched) channel ∧
          channel.output.bytes = #[] ++ bytes := by
    rw [serves.runLeaves_iff (batchSteps_optionsFor tapeSize mode),
      alsoServes.runLeaves_iff (batchSteps_optionsFor tapeSize batched), sameHost]
    rfl
  simp only [Session.RunLeaves, exists_exists_eq_and, Array.empty_append] at leaves
  simp only [written, sourced]
  exact leaves

/-- Where command lines end behind runs of a program, they compare with the library. -/
theorem comparesWithLibrary_of_endsAfter :
    ComparesWithLibrary main
      (fun fuel => Session.runSource source (optionsFor tapeSize batched) fuel other) before :=
  comparesWithLibrary_of_ends (endsLike_library cells ends serves sameHost alsoServes)
    (endsLike_main cells ends serves sameHost alsoServes)
    (exists_bytes_iff ends serves sameHost alsoServes)

end

theorem Streams.serves
    {input : List UInt8}
    (streams : Streams session input) :
    session.Serves input session.channel.output.bytes := by
  obtain ⟨reads, flushing, recorder, writes, unlimited, alsoUnlimited⟩ := streams
  have talks :
      session.channel = .fromStream input (.streaming flushing recorder #[]) := by
    rw [Output.streaming_empty, ← writes, Channel.fromStream, ← reads]
  rw [writes]
  exact .intro Channel.connects_fromStream (fun _ _ => rfl)
    (Output.takesAll_streaming unlimited alsoUnlimited flushing) talks

theorem serves_fromMemory
    (other : Session)
    (host : Host)
    (input : List UInt8) :
    { other with host, channel := .fromMemory input .empty }.Serves input #[] :=
  .intro Channel.connects_fromMemory (fun _ _ => rfl) Output.takesAll_memory rfl

/-- Statistics and notices make no difference to what the arguments ask for. -/
theorem Arguments.AskFor.likewise
    (asked : arguments.AskFor origin tapeSize)
    (interprets : arguments.transpiles = false)
    (stats verbose : Bool) :
    { arguments with stats, verbose }.AskFor origin tapeSize where
  sized := asked.sized
  cells := asked.cells
  modes := by
    have modes := asked.modes
    have same : { arguments with stats, verbose }.transpiles = false := interprets
    simp only [modeError?, interprets, same, Bool.false_and, Bool.false_eq_true, ↓reduceIte]
      at modes ⊢
    exact modes
  named := asked.named
  extension := asked.extension

/-- Interpreting from the command line does what the library does with the source. -/
theorem interpretsLikeLibrary_of_holds
    {input : List UInt8}
    (parsed : parseArguments words = .ok arguments)
    (asked : arguments.AskFor origin tapeSize)
    (interprets : arguments.transpiles = false)
    (holds : origin.Holds session source)
    (streams : Streams session input) :
    InterpretsLikeLibrary words arguments tapeSize source input session where
  library other _ :=
    comparesWithLibrary_of_endsAfter asked.cells
      (run_endsAfter parsed asked interprets holds) streams.serves rfl
      (serves_fromMemory other session.host input)
  quiet likewise stats verbose fuel alike := by
    have ends := run_endsAfter parsed asked interprets holds fuel
    have sameEnds := run_endsAfter alike (asked.likewise interprets stats verbose) interprets
      holds fuel
    obtain ⟨_, left⟩ := ends.session
    obtain ⟨journal, sameLeft⟩ := sameEnds.session
    refine ⟨sameEnds.exit.trans ends.exit.symm, journal, ?_⟩
    rw [sameLeft, left]

/-- An echo of one byte, step by step, behind a byte that was written before. -/
theorem interpretsLikeLibrary_echo :
    ∃ arguments session,
      parseArguments ["--no-jit", "-n", "1", "-p", ",."] = .ok arguments ∧
        arguments.AskFor (.parsed ",.") 1 ∧
        arguments.transpiles = false ∧
        Origin.Holds session (.parsed ",.") (.text ",.") ∧
        Streams session [7] ∧
        InterpretsLikeLibrary ["--no-jit", "-n", "1", "-p", ",."] arguments 1 (.text ",.") [7]
          session := by
  let arguments : Arguments :=
    { Arguments.initial with
      parse := some (.value ",.")
      tapeSize := .value 1
      noJit := true }
  let session : Session :=
    { host := .large
      files := .empty []
      toolchain := .none
      channel := .fromStream [7] (.stream true { Recorder.fresh with bytes := #[9] })
      journal := #[]
      scratch := "/tmp"
      elapsed := "0.00" }
  have parsed : parseArguments ["--no-jit", "-n", "1", "-p", ",."] = .ok arguments := by
    decide +kernel
  have asked : arguments.AskFor (.parsed ",.") 1 :=
    ⟨rfl, by decide, rfl, rfl, nofun⟩
  have streams : Streams session [7] := ⟨rfl, true, _, rfl, rfl, rfl⟩
  exact ⟨arguments, session, parsed, asked, rfl, .parsed ",.", streams,
    interpretsLikeLibrary_of_holds parsed asked rfl (.parsed ",.") streams⟩

end CommandLine

end Brainfuck
