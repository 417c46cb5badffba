import Brainfuck.Proofs.Build.Course
import Brainfuck.Proofs.CommandLine.Interpretation

namespace Brainfuck

/-!
# Stages of the command line

A program that is loaded is interpreted, turned into C, or built and run.  Each way
has its stages, and the first one that fails settles how the command line ends and
which message it leaves.
-/

theorem Host.isSize_of_newTape?
    {host : Host}
    {cells : Nat}
    {tape : Array UInt8}
    (granted : host.newTape? cells = some tape) :
    isSize cells = true := by
  unfold newTape? at granted
  split at granted
  · next few =>
      exact host.isSize_of_grantsTape few
  · cases granted

namespace CommandLine

/--
Whether a command line ends in a way, and its last message is that of a failure if there
is one.
-/
structure Result.Shows
    (result : Result)
    (exit : Exit)
    (failure? : Option Failure) :
    Prop where
  exit : result.exit = exit
  message : ∀ failure, failure? = some failure →
    ∃ earlier, result.errorText = earlier ++ (failure.message ++ "\n")

/-- How interpreting a program on a tape of a number of cells of a host ends. -/
inductive Interpreting
    (host : Host)
    (program : Program)
    (cells : Nat)
    (channel : Channel) :
    Exit → Option Failure → Prop where
  | unallocated
      (balanced : program.IsBalanced)
      (refused : host.newTape? cells = none)
      (size : isSize cells = true) :
      Interpreting host program cells channel (.returned 2) (some (.tapeTooLarge cells))
  /-- What is no size is not refused as a tape, but as an argument. -/
  | oversized
      (balanced : program.IsBalanced)
      (size : isSize cells = false) :
      Interpreting host program cells channel (.raised (.tapeTooLarge cells)) none
  | stopped
      {table : JumpTable}
      {tape : Array UInt8}
      {count : Nat}
      {machine : Machine}
      {next last : Channel}
      {failure : Failure}
      (resolved : program.resolveLoops = .ok table)
      (granted : host.newTape? cells = some tape)
      (path :
        Machine.Path Channel.console program table count (.start tape) channel machine next)
      (obstacle : Machine.Obstacle Channel.console program machine next failure last) :
      Interpreting host program cells channel (.returned 2) (some failure)
  | finished
      {table : JumpTable}
      {tape : Array UInt8}
      {count : Nat}
      {machine : Machine}
      {last : Channel}
      (resolved : program.resolveLoops = .ok table)
      (granted : host.newTape? cells = some tape)
      (path :
        Machine.Path Channel.console program table count (.start tape) channel machine last)
      (past : machine.isPast program = true) :
      Interpreting host program cells channel (.returned 0) none

/-- How turning a program into C ends. -/
inductive Generating
    (program : Program)
    (cells : Nat)
    (path : File.Path)
    (files : File.Store) :
    Exit → Option Failure → Prop where
  | unwritable
      {text : String}
      {problem : File.Problem}
      (generates : program.HasSource cells text)
      (closed : files.write path (utf8Bytes text.toList) = .error problem) :
      Generating program cells path files (.returned 2)
        (some (.unwritableFile path.toText problem))
  | written
      {text : String}
      {left : File.Store}
      (generates : program.HasSource cells text)
      (writes : files.write path (utf8Bytes text.toList) = .ok left) :
      Generating program cells path files (.returned 0) none

/-- The course that building and running a program takes once its C source is written. -/
def buildCourse
    (options : TranspileOptions)
    (path : Option String)
    (session : Session)
    (text name : String) :
    List Call → Outcome Int → Prop :=
  Build.Course session.toolchain name
    (fun found =>
      found :: options.flags ++
        ["-o", (Build.binaryPath session).toText, (Build.sourcePath session path).toText])
    (utf8Bytes text.toList) (Build.binaryPath session).toText

/-- How building and running a program ends. -/
inductive Building
    (program : Program)
    (options : TranspileOptions)
    (path : Option String)
    (session : Session) :
    Exit → Option Failure → Prop where
  | unwritable
      {text : String}
      {problem : File.Problem}
      (generates : program.HasSource options.tapeSize text)
      (closed :
        (Build.prepared session).files.write (Build.sourcePath session path)
          (utf8Bytes text.toList) = .error problem) :
      Building program options path session (.returned 2)
        (some (.unwritableFile (Build.sourcePath session path).toText problem))
  | failed
      {text name : String}
      {files : File.Store}
      {calls : List Call}
      {failure : Failure}
      (generates : program.HasSource options.tapeSize text)
      (writes :
        (Build.prepared session).files.write (Build.sourcePath session path)
          (utf8Bytes text.toList) = .ok files)
      (uses : Build.UsesCompiler options session.toolchain.preferred name)
      (course : buildCourse options path session text name calls (.error failure)) :
      Building program options path session (.returned 3) (some failure)
  | ran
      {text name : String}
      {files : File.Store}
      {calls : List Call}
      {status : Int}
      (generates : program.HasSource options.tapeSize text)
      (writes :
        (Build.prepared session).files.write (Build.sourcePath session path)
          (utf8Bytes text.toList) = .ok files)
      (uses : Build.UsesCompiler options session.toolchain.preferred name)
      (course : buildCourse options path session text name calls (.ok status)) :
      Building program options path session (.returned status) none

variable
  {arguments : Arguments}
  {tapeSize : Int}
  {origin : Origin}
  {source : Source}
  {program : Program}
  {host : Host}
  {session loaded left : Session}
  {words : List String}
  {failure : Failure}
  {failure? : Option Failure}
  {exit : Exit}
  {fuel : Nat}

/-! What the arguments ask for, and how the command line ends. -/

section

variable
  (parsed : parseArguments words = .ok arguments)
  (asked : arguments.AskFor origin tapeSize)

include parsed asked

theorem run_of_returned
    {status : Int}
    (performed : perform arguments tapeSize origin fuel session = .ok (some status) left) :
    run words fuel session = ⟨.returned status, arguments.verbose, left⟩ := by
  rw [asked.run_eq_runOrigin parsed]
  simp only [runOrigin, performed]

theorem shows_of_reported
    (performed : perform arguments tapeSize origin fuel session = .error failure left)
    (known : failure.isReported = true) :
    (run words fuel session).Shows (.returned (statusOf failure)) (some failure) := by
  have ends : run words fuel session =
      ⟨.returned (statusOf failure), arguments.verbose, say left failure.message⟩ := by
    rw [asked.run_eq_runOrigin parsed]
    simp only [runOrigin, performed, known, ↓reduceIte]
  rw [ends]
  refine ⟨rfl, ?_⟩
  intro _ same
  cases same
  exact ⟨_, errorText_say _ _ _ _⟩

theorem shows_of_escaped
    (performed : perform arguments tapeSize origin fuel session = .error failure left)
    (unknown : failure.isReported = false) :
    (run words fuel session).Shows (.raised failure) none := by
  rw [asked.run_eq_runOrigin parsed]
  simp only [runOrigin, performed, unknown, Bool.false_eq_true, ↓reduceIte]
  refine ⟨rfl, ?_⟩
  intro reported same
  cases same

end

/-! Interpreting a program. -/

/-- How the command line ends with an answer of a run. -/
def exitOf : Outcome Machine → Exit
  | .ok _ => .returned 0
  | .error failure => if failure.isReported then .returned 2 else .raised failure

/-- The failure that the command line reports for an answer of a run. -/
def reportOf : Outcome Machine → Option Failure
  | .ok _ => none
  | .error failure => if failure.isReported then some failure else none

/-- Whether a refused tape is reported depends on whether its cells are a size at all. -/
theorem isReported_tapeTooLarge (cells : Nat) :
    (Failure.tapeTooLarge cells).isReported = isSize cells :=
  rfl

theorem told_of_reported (known : failure.isReported = true) :
    exitOf (.error failure) = .returned 2 ∧ reportOf (.error failure) = some failure := by
  simp only [exitOf, reportOf, known, ↓reduceIte, and_self]

theorem told_of_unreported (unknown : failure.isReported = false) :
    exitOf (.error failure) = .raised failure ∧ reportOf (.error failure) = none := by
  simp only [exitOf, reportOf, unknown, Bool.false_eq_true, ↓reduceIte, and_self]

theorem shows_of_answer
    {answer : Outcome Machine}
    (parsed : parseArguments words = .ok arguments)
    (asked : arguments.AskFor origin tapeSize)
    (interprets : arguments.transpiles = false)
    (holds : origin.Holds session source)
    (ran :
      Session.runProgram (.ofOpcodes (Buffer.commands source.toBytes))
          (optionsFor tapeSize !arguments.noJit) fuel session =
        Session.resultOf left answer) :
    (run words fuel session).Shows (exitOf answer) (reportOf answer) := by
  obtain ⟨exit, _, message⟩ := run_endsAfter parsed asked interprets holds fuel
  rw [ran] at exit message
  cases answer with
  | ok machine =>
      exact ⟨exit, nofun⟩
  | error failure =>
      have cells := asked.cells
      have failing := Session.runFailure_of_runProgram (Program.toSource_ofOpcodes _)
        (show 0 < tapeSize.toNat by omega) (batchSteps_optionsFor tapeSize _) ran
      simp only [Session.resultOf, exitAfter, statusOf, failing.isToolchain_eq_false,
        Bool.false_eq_true, ↓reduceIte] at exit
      refine ⟨exit, ?_⟩
      intro reported same
      cases known : failure.isReported with
      | false =>
          rw [(told_of_unreported known).2] at same
          cases same
      | true =>
          rw [(told_of_reported known).2] at same
          cases same
          exact message _ _ rfl known

theorem isReported_of_obstacle
    {machine : Machine}
    {next last : Channel}
    {tape : Array UInt8}
    {cells : Nat}
    {shown : String}
    (printed : program.toSource = .ok shown)
    (granted : host.newTape? cells = some tape)
    (obstacle : Machine.Obstacle Channel.console program machine next failure last) :
    failure.isReported = true :=
  (obstacle.runFailure printed cells).isReported_of_isSize (Host.isSize_of_newTape? granted)

section

variable
  {options : RunOptions}
  {shown : String}
  (printed : program.toSource = .ok shown)
  (cells : 0 < options.tapeSize)
  (positive : 0 < options.batchSteps)

include printed cells positive

/-- A run of a program with balanced brackets that comes to an answer ends in one of the ways. -/
theorem interpreting_of_runEnds
    {answer : Outcome Machine}
    {channel : Channel}
    (balanced : program.IsBalanced)
    (ends : session.RunEnds program options answer channel) :
    Interpreting session.host program options.tapeSize session.channel (exitOf answer)
      (reportOf answer) := by
  obtain ⟨table, resolved⟩ := balanced.exists_resolveLoops
  let engine := Session.engineFor session.host program table options
  have matching : engine.table.Matches engine.program :=
    (Program.matches_of_resolveLoops resolved).2
  obtain ⟨last, concludes, _⟩ := (Session.runEnds_iff_concludes resolved).mp ends
  cases granted : session.host.newTape? options.tapeSize with
  | none =>
      obtain ⟨rfl, _⟩ := (Engine.concludes_of_refused engine granted).mp concludes
      cases size : isSize options.tapeSize with
      | true =>
          obtain ⟨exit, report⟩ :=
            told_of_reported ((isReported_tapeTooLarge engine.tapeSize).trans size)
          rw [exit, report]
          exact .unallocated balanced granted size
      | false =>
          obtain ⟨exit, report⟩ :=
            told_of_unreported ((isReported_tapeTooLarge engine.tapeSize).trans size)
          rw [exit, report]
          exact .oversized balanced size
  | some tape =>
      cases answer with
      | ok machine =>
          obtain ⟨_, _, _, ends⟩ :=
            (Engine.concludes_ok_iff positive matching.serves granted).mp concludes
          cases ends with
          | finished path past =>
              exact .finished resolved granted path past
      | error failure =>
          obtain ⟨machine, _, _, _, passes, obstacle⟩ :=
            (Engine.concludes_error_iff_obstacle matching cells granted positive).mp concludes
          obtain ⟨_, path⟩ :=
            (Engine.runPasses_iff_path positive matching.serves granted).mp passes
          obtain ⟨exit, report⟩ :=
            told_of_reported (isReported_of_obstacle printed granted obstacle)
          rw [exit, report]
          exact .stopped resolved granted path obstacle

omit cells in
/-- Each of the ways is the end of a run that comes to an answer. -/
theorem Interpreting.exists_runEnds
    (ends : Interpreting session.host program options.tapeSize session.channel exit failure?) :
    ∃ answer channel, session.RunEnds program options answer channel ∧
      exitOf answer = exit ∧ reportOf answer = failure? := by
  have refusing {table : JumpTable}
      (resolved : program.resolveLoops = .ok table)
      (refused : session.host.newTape? options.tapeSize = none) :
      session.RunEnds program options (.error (.tapeTooLarge options.tapeSize))
        session.channel := by
    let engine := Session.engineFor session.host program table options
    have concludes : engine.Concludes Channel.console (.initial session.channel) _ _ :=
      (Engine.concludes_of_refused engine refused).mpr ⟨rfl, rfl⟩
    exact (Session.runEnds_iff_concludes resolved).mpr ⟨_, concludes, rfl⟩
  cases ends with
  | unallocated balanced refused size =>
      obtain ⟨_, resolved⟩ := balanced.exists_resolveLoops
      exact ⟨_, _, refusing resolved refused, told_of_reported size⟩
  | oversized balanced size =>
      obtain ⟨_, resolved⟩ := balanced.exists_resolveLoops
      have refused : session.host.newTape? options.tapeSize = none := by
        cases granted : session.host.newTape? options.tapeSize with
        | none =>
            rfl
        | some tape =>
            rw [Host.isSize_of_newTape? granted] at size
            cases size
      exact ⟨_, _, refusing resolved refused, told_of_unreported size⟩
  | @stopped table _ _ _ _ _ _ resolved granted path obstacle =>
      let engine := Session.engineFor session.host program table options
      have serves : engine.table.Serves engine.program :=
        Session.table_serves resolved session.host options
      have steps : 0 < engine.batchSteps := positive
      have passes : engine.RunPasses Channel.console (.initial session.channel) _ _ :=
        (Engine.runPasses_iff_path steps serves granted).mpr ⟨_, path⟩
      have concludes := Engine.concludes_of_obstacle steps serves granted passes obstacle
      exact ⟨_, _, (Session.runEnds_iff_concludes resolved).mpr ⟨_, concludes, rfl⟩,
        told_of_reported (isReported_of_obstacle printed granted obstacle)⟩
  | @finished table _ _ _ _ resolved granted path past =>
      let engine := Session.engineFor session.host program table options
      have serves : engine.table.Serves engine.program :=
        Session.table_serves resolved session.host options
      have steps : 0 < engine.batchSteps := positive
      have concludes : engine.Concludes Channel.console (.initial session.channel) _ _ :=
        (Engine.concludes_ok_iff steps serves granted).mpr ⟨_, _, rfl, .finished path past⟩
      exact ⟨_, _, (Session.runEnds_iff_concludes resolved).mpr ⟨_, concludes, rfl⟩, rfl, rfl⟩

end

/-! Turning a program into C. -/

theorem exists_generating
    {cells : Nat}
    (loaded : program.IsLoaded)
    (balanced : program.IsBalanced)
    (positive : 0 < cells)
    (numeral : Text.hasNumeral cells = true)
    (path : File.Path)
    (files : File.Store) :
    ∃ exit failure?, Generating program cells path files exit failure? := by
  obtain ⟨text, generates⟩ := Program.exists_hasSource loaded balanced positive numeral
  cases written : files.write path (utf8Bytes text.toList) with
  | error problem =>
      exact ⟨_, _, .unwritable generates written⟩
  | ok left =>
      exact ⟨_, _, .written generates written⟩

theorem exists_building
    {options : TranspileOptions}
    {path : Option String}
    (loaded : program.IsLoaded)
    (balanced : program.IsBalanced)
    (positive : 0 < options.tapeSize)
    (numeral : Text.hasNumeral options.tapeSize = true)
    (accepted : session.toolchain.accepts options.flags = true)
    (free : ∀ text, path = some text → '\x00' ∉ text.toList)
    (hosted : Build.Hosted session) :
    ∃ exit failure?, Building program options path session exit failure? := by
  obtain ⟨text, generates⟩ := Program.exists_hasSource loaded balanced positive numeral
  have built := (Build.buildsOnce_of_hasSource generates free hosted).written accepted
  cases written : (Build.prepared session).files.write (Build.sourcePath session path)
      (utf8Bytes text.toList) with
  | error problem =>
      exact ⟨_, _, .unwritable generates written⟩
  | ok files =>
      obtain ⟨name, uses, calls, answer, _, course, _, _⟩ := built files written
      cases answer with
      | ok status =>
          exact ⟨_, _, .ran generates written uses course⟩
      | error failure =>
          exact ⟨_, _, .failed generates written uses course⟩

theorem stats_eq_false_of_transpiles
    (modes : modeError? arguments = none)
    (transpiles : arguments.transpiles = true) :
    arguments.stats = false := by
  cases stats : arguments.stats with
  | false =>
      rfl
  | true =>
      simp only [modeError?, transpiles, stats, Bool.and_self, ↓reduceIte] at modes
      split_ifs at modes

theorem Arguments.transpiles_of_intermediate (intermediate : arguments.intermediate = true) :
    arguments.transpiles = true := by
  rw [Arguments.transpiles, intermediate, Bool.true_or]

theorem Arguments.transpiles_of_compile (compiles : arguments.compile = true) :
    arguments.transpiles = true := by
  rw [Arguments.transpiles, compiles, Bool.or_true]

/-- Behind loading, what turns the program into C settles what is done. -/
theorem perform_of_transpile
    (answer : Outcome Int)
    (modes : modeError? arguments = none)
    (transpiles : arguments.transpiles = true)
    (loads : load origin session = .ok program loaded)
    (transpiled :
      transpile arguments tapeSize origin program loaded = left.answering answer)
    (fuel : Nat) :
    perform arguments tapeSize origin fuel session = left.answering (answer.map some) := by
  unfold perform
  rw [Session.bind_of_ok loads]
  simp only [stats_eq_false_of_transpiles modes transpiles, transpiles, Bool.false_eq_true,
    ↓reduceIte]
  cases answer with
  | ok status =>
      exact Session.bind_of_ok transpiled
  | error failure =>
      exact Session.bind_of_error transpiled

/-- The options with which the command line turns a program into C. -/
def generationFor
    (arguments : Arguments)
    (tapeSize : Int) :
    TranspileOptions where
  tapeSize := tapeSize.toNat
  compiler := given? arguments.compiler
  flags := defaultFlags

/-- The flags that the command line compiles with may be part of any command. -/
theorem accepts_generationFor
    (toolchain : Toolchain)
    (arguments : Arguments)
    (tapeSize : Int) :
    toolchain.accepts (generationFor arguments tapeSize).flags = true := by
  have plain : (defaultFlags.all fun flag => !holdsNull flag) = true := by decide
  rw [Toolchain.accepts, generationFor, plain, Bool.or_true]

/-- The text of the path that is given for the C source of a program that is run. -/
def keptText? (arguments : Arguments) : Option String :=
  match arguments.output with
  | some (.value text) => some text
  | _ => none

theorem transpile_of_intermediate
    {text : String}
    (cells : 1 ≤ tapeSize)
    (intermediate : arguments.intermediate = true)
    (generates : program.HasSource tapeSize.toNat text)
    (plain : (sourcePath arguments origin).IsPlain)
    (session : Session) :
    ∃ journal,
      transpile arguments tapeSize origin program session =
        match session.files.write (sourcePath arguments origin) (utf8Bytes text.toList) with
        | .error problem =>
            .error (.unwritableFile (sourcePath arguments origin).toText problem)
              { session with journal }
        | .ok files => .ok 0 { session with files, journal } := by
  have created := TranspileOptions.create_of_cells cells (given? arguments.compiler) defaultFlags
  let options := generationFor arguments tapeSize
  have generatesSame : program.HasSource options.tapeSize text := generates
  obtain ⟨journal, transpiles⟩ := Session.transpile_eq_write generatesSame plain session
  unfold transpile
  rw [Session.bind_of_ok (Session.lift_of_ok created session)]
  simp only [intermediate, ↓reduceIte]
  cases written : session.files.write (sourcePath arguments origin) (utf8Bytes text.toList) with
  | error problem =>
      rw [written] at transpiles
      exact ⟨journal, Session.bind_of_error transpiles⟩
  | ok files =>
      rw [written] at transpiles
      exact ⟨_, Session.bind_of_ok transpiles⟩

theorem transpile_of_named
    (cells : 1 ≤ tapeSize)
    (runs : arguments.intermediate = false)
    (named : arguments.output ≠ some .nothing)
    (origin : Origin)
    (program : Program)
    (session : Session) :
    transpile arguments tapeSize origin program session =
      Build.buildAndRunProgram program (generationFor arguments tapeSize)
        ((keptText? arguments).map File.Path.ofText) session := by
  have created := TranspileOptions.create_of_cells cells (given? arguments.compiler) defaultFlags
  have kept : keptPath? arguments = .ok ((keptText? arguments).map File.Path.ofText) := by
    unfold keptPath? keptText?
    rcases given : arguments.output with _ | (text | _)
    · rfl
    · rfl
    · exact absurd given named
  unfold transpile
  rw [Session.bind_of_ok (Session.lift_of_ok created session)]
  simp only [runs, Bool.false_eq_true, ↓reduceIte]
  rw [Session.bind_of_ok (Session.lift_of_ok kept session)]
  rfl

theorem transpile_of_nameless
    (cells : 1 ≤ tapeSize)
    (runs : arguments.intermediate = false)
    (nameless : arguments.output = some .nothing)
    (origin : Origin)
    (program : Program)
    (session : Session) :
    transpile arguments tapeSize origin program session = .error .pathMissing session := by
  have created := TranspileOptions.create_of_cells cells (given? arguments.compiler) defaultFlags
  unfold transpile
  rw [Session.bind_of_ok (Session.lift_of_ok created session)]
  simp only [runs, Bool.false_eq_true, ↓reduceIte]
  exact Session.bind_of_error (Session.lift_of_error (keptPath?_of_nameless nameless) session)

theorem isReported_of_isToolchain (toolchain : failure.isToolchain = true) :
    failure.isReported = true := by
  cases failure <;> first | rfl | cases toolchain

/-- The only course of a build is the one that it takes. -/
theorem exists_answering_of_course
    {options : TranspileOptions}
    {path : Option String}
    {text name : String}
    {files : File.Store}
    {calls : List Call}
    {answer : Outcome Int}
    (generates : program.HasSource options.tapeSize text)
    (writes :
      (Build.prepared session).files.write (Build.sourcePath session path)
        (utf8Bytes text.toList) = .ok files)
    (uses : Build.UsesCompiler options session.toolchain.preferred name)
    (course : buildCourse options path session text name calls answer)
    (accepted : session.toolchain.accepts options.flags = true)
    (free : ∀ text, path = some text → '\x00' ∉ text.toList)
    (hosted : Build.Hosted session) :
    ∃ left : Session,
      Build.buildAndRunProgram program options (path.map File.Path.ofText) session =
        left.answering answer := by
  obtain ⟨other, alsoUses, _, _, left, taken, built, _⟩ :=
    (Build.buildsOnce_of_hasSource generates free hosted).written accepted _ writes
  have same : other = name := alsoUses.eq_resolvedCompiler.trans uses.eq_resolvedCompiler.symm
  subst same
  obtain ⟨_, rfl⟩ := course.eq taken
  exact ⟨left, built⟩

section

variable
  (parsed : parseArguments words = .ok arguments)
  (asked : arguments.AskFor origin tapeSize)
  (holds : origin.Holds session source)

include parsed asked holds

section

variable
  {text : String}
  (intermediate : arguments.intermediate = true)
  (plain : (sourcePath arguments origin).IsPlain)
  (generates :
    (Program.ofOpcodes (Buffer.commands source.toBytes)).HasSource tapeSize.toNat text)

include intermediate plain generates

omit parsed in
/-- Turning a program into C writes one file, or reports that it cannot be written. -/
theorem exists_perform_of_intermediate (fuel : Nat) :
    ∃ journal,
      perform arguments tapeSize origin fuel session =
        match session.files.write (sourcePath arguments origin) (utf8Bytes text.toList) with
        | .error problem =>
            .error (.unwritableFile (sourcePath arguments origin).toText problem)
              { session with journal }
        | .ok files => .ok (some 0) { session with files, journal } := by
  have transpiles := Arguments.transpiles_of_intermediate intermediate
  obtain ⟨journal, loads⟩ := load_of_holds holds
  obtain ⟨longer, transpiled⟩ :=
    transpile_of_intermediate asked.cells intermediate generates plain { session with journal }
  refine ⟨longer, ?_⟩
  cases written : session.files.write (sourcePath arguments origin) (utf8Bytes text.toList) with
  | error problem =>
      simp only [written] at transpiled
      exact perform_of_transpile (.error _) asked.modes transpiles loads transpiled fuel
  | ok files =>
      simp only [written] at transpiled
      exact perform_of_transpile (.ok 0) asked.modes transpiles loads transpiled fuel

theorem run_of_written
    {files : File.Store}
    (writes :
      session.files.write (sourcePath arguments origin) (utf8Bytes text.toList) = .ok files)
    (fuel : Nat) :
    ∃ journal,
      run words fuel session =
        ⟨.returned 0, arguments.verbose, { session with files, journal }⟩ := by
  obtain ⟨journal, performed⟩ :=
    exists_perform_of_intermediate asked holds intermediate plain generates fuel
  rw [writes] at performed
  exact ⟨journal, run_of_returned parsed asked performed⟩

theorem shows_of_unwritable
    {problem : File.Problem}
    (closed :
      session.files.write (sourcePath arguments origin) (utf8Bytes text.toList) =
        .error problem)
    (fuel : Nat) :
    (run words fuel session).Shows (.returned 2)
      (some (.unwritableFile (sourcePath arguments origin).toText problem)) := by
  obtain ⟨journal, performed⟩ :=
    exists_perform_of_intermediate asked holds intermediate plain generates fuel
  rw [closed] at performed
  exact shows_of_reported parsed asked performed rfl

end

theorem shows_of_generating
    (intermediate : arguments.intermediate = true)
    (plain : (sourcePath arguments origin).IsPlain)
    (ends :
      Generating (.ofOpcodes (Buffer.commands source.toBytes)) tapeSize.toNat
        (sourcePath arguments origin) session.files exit failure?)
    (fuel : Nat) :
    (run words fuel session).Shows exit failure? := by
  cases ends with
  | unwritable generates closed =>
      exact shows_of_unwritable parsed asked holds intermediate plain generates closed fuel
  | written generates writes =>
      obtain ⟨_, ends⟩ :=
        run_of_written parsed asked holds intermediate plain generates writes fuel
      rw [ends]
      exact ⟨rfl, nofun⟩

/-! Building and running a program. -/

section

variable
  (compiles : arguments.compile = true)
  (runs : arguments.intermediate = false)

include compiles runs

theorem shows_of_nameless
    (nameless : arguments.output = some .nothing)
    (fuel : Nat) :
    (run words fuel session).Shows (.raised .pathMissing) none := by
  have transpiles := Arguments.transpiles_of_compile compiles
  obtain ⟨journal, loads⟩ := load_of_holds holds
  have transpiled := transpile_of_nameless asked.cells runs nameless origin
    (.ofOpcodes (Buffer.commands source.toBytes)) { session with journal }
  exact shows_of_escaped parsed asked
    (perform_of_transpile (.error _) asked.modes transpiles loads transpiled fuel) rfl

omit parsed in
/-- Building from the command line does what the library does with the program. -/
theorem exists_perform_of_answering
    (answer : Outcome Int)
    (named : arguments.output ≠ some .nothing)
    (built : ∀ journal, ∃ left : Session,
      Build.buildAndRunProgram (.ofOpcodes (Buffer.commands source.toBytes))
          (generationFor arguments tapeSize) ((keptText? arguments).map File.Path.ofText)
          { session with journal } =
        left.answering answer)
    (fuel : Nat) :
    ∃ left : Session,
      perform arguments tapeSize origin fuel session = left.answering (answer.map some) := by
  have transpiles := Arguments.transpiles_of_compile compiles
  obtain ⟨journal, loads⟩ := load_of_holds holds
  obtain ⟨left, built⟩ := built journal
  have transpiled := (transpile_of_named asked.cells runs named origin _ _).trans built
  exact ⟨left, perform_of_transpile answer asked.modes transpiles loads transpiled fuel⟩

theorem shows_of_building
    (named : arguments.output ≠ some .nothing)
    (free : ∀ text, keptText? arguments = some text → '\x00' ∉ text.toList)
    (hosted : Build.Hosted session)
    (ends :
      Building (.ofOpcodes (Buffer.commands source.toBytes)) (generationFor arguments tapeSize)
        (keptText? arguments) session exit failure?)
    (fuel : Nat) :
    (run words fuel session).Shows exit failure? := by
  cases ends with
  | unwritable generates closed =>
      obtain ⟨left, performed⟩ :=
        exists_perform_of_answering asked holds compiles runs
          (.error (.unwritableFile (Build.sourcePath session (keptText? arguments)).toText _))
          named (fun journal => by
            obtain ⟨left, built, _⟩ :=
              (Build.buildsOnce_of_hasSource generates free
                (hosted.withJournal journal)).unwritable _ closed
            exact ⟨left, built⟩) fuel
      exact shows_of_reported parsed asked performed rfl
  | failed generates writes uses course =>
      obtain ⟨left, performed⟩ :=
        exists_perform_of_answering asked holds compiles runs (.error _) named
          (fun journal => exists_answering_of_course generates writes uses course
            (accepts_generationFor _ arguments tapeSize) free (hosted.withJournal journal)) fuel
      have status : statusOf _ = 3 := if_pos course.isToolchain
      rw [← status]
      exact shows_of_reported parsed asked performed
        (isReported_of_isToolchain course.isToolchain)
  | ran generates writes uses course =>
      obtain ⟨left, performed⟩ :=
        exists_perform_of_answering asked holds compiles runs (.ok _) named
          (fun journal => exists_answering_of_course generates writes uses course
            (accepts_generationFor _ arguments tapeSize) free (hosted.withJournal journal)) fuel
      rw [run_of_returned parsed asked performed]
      exact ⟨rfl, nofun⟩

end

end

end CommandLine

end Brainfuck
