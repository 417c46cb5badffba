import Brainfuck.Proofs.Build.Calls
import Brainfuck.Proofs.Numeral
import Brainfuck.Proofs.Session.Writing

namespace Brainfuck

/-!
# The course of a build

A program is built in stages, each of which makes one call and is reached only
where the one before it succeeded: the C source is written, the compiler is looked
up, it compiles the source, and the binary is run.  The first stage that fails is
the last one, and it tells what is reported.  There is no source for a tape size that
cannot be written, and no call of the compiler with flags that no command can have.
-/

namespace Build

/--
The calls that building and running a C file makes, in order, and the answer that it
gives.  `command` is what the compiler that was found is called with, and `content` is
what the C file holds at that time.
-/
inductive Course
    (toolchain : Toolchain)
    (name : String)
    (command : String → List String)
    (content : List UInt8)
    (binary : String) :
    List Call → Outcome Int → Prop where
  | notFound
      (absent : toolchain.found.lookup name = none) :
      Course toolchain name command content binary
        [.search name]
        (.error (.compilerNotFound name))
  | notStarted
      {found : String}
      {cause : SystemError}
      (present : toolchain.found.lookup name = some found)
      (refused : toolchain.response 0 = .refused cause) :
      Course toolchain name command content binary
        [.search name, .compile (command found) (some content)]
        (.error (.compilerNotStarted found cause))
  | rejected
      {found complaint : String}
      {status : Int}
      (present : toolchain.found.lookup name = some found)
      (exited : toolchain.response 0 = .exited status complaint)
      (unsuccessful : status ≠ 0) :
      Course toolchain name command content binary
        [.search name, .compile (command found) (some content)]
        (.error (.compilerRejected found status complaint))
  | notExecuted
      {found complaint : String}
      {cause : SystemError}
      (present : toolchain.found.lookup name = some found)
      (compiled : toolchain.response 0 = .exited 0 complaint)
      (refused : toolchain.response 1 = .refused cause) :
      Course toolchain name command content binary
        [.search name, .compile (command found) (some content), .execute binary]
        (.error (.programNotStarted binary cause))
  | ran
      {found complaint printed : String}
      {status : Int}
      (present : toolchain.found.lookup name = some found)
      (compiled : toolchain.response 0 = .exited 0 complaint)
      (exited : toolchain.response 1 = .exited status printed) :
      Course toolchain name command content binary
        [.search name, .compile (command found) (some content), .execute binary]
        (.ok status)

/-- The course that is taken where the flags cannot be part of a command. -/
inductive LookupCourse
    (toolchain : Toolchain)
    (name : String) :
    List Call → Outcome Int → Prop where
  | notFound
      (absent : toolchain.found.lookup name = none) :
      LookupCourse toolchain name [.search name] (.error (.compilerNotFound name))
  | notAccepted
      {found : String}
      (present : toolchain.found.lookup name = some found) :
      LookupCourse toolchain name [.search name] (.error .nullInCommand)

/-- The directory for temporary files of a session. -/
def scratchPath (session : Session) : File.Path :=
  .ofText session.scratch

/-- The session with the directory for temporary files made. -/
def prepared (session : Session) : Session :=
  { session with
    files := session.files.makeDirectories
      (session.files.origin (scratchPath session) ++ (scratchPath session).parts) }

/-- Where the C source goes: to the path that is given, or else to a temporary file. -/
def sourcePath
    (session : Session)
    (path : Option String) :
    File.Path :=
  match path with
  | some text => .ofText text
  | none => (scratchPath session).child "tmp_bf_program.c"

/-- The temporary binary. -/
def binaryPath (session : Session) : File.Path :=
  (scratchPath session).child "bf_program"

/--
Whether the working directory of a session is there, and its directory for temporary
files has a name that a file system can have.
-/
structure Hosted (session : Session) : Prop where
  working : session.files.nodeAt? session.files.workingDirectory = some .directory
  scratch : '\x00' ∉ session.scratch.toList

/-- Whether a result is one behind the calls of a course, with its answer. -/
def Follows
    (result : EStateM.Result Failure Session Int)
    (session : Session)
    (course : List Call → Outcome Int → Prop) :
    Prop :=
  ∃ (calls : List Call) (answer : Outcome Int) (left : Session),
    course calls answer ∧ result = left.answering answer ∧
      left.toolchain.calls = session.toolchain.calls ++ calls

/-- How building and running a program works, where its C source is a text. -/
structure BuildsOnce
    (program : Program)
    (options : TranspileOptions)
    (path : Option String)
    (session : Session)
    (text : String) :
    Prop where
  generates : program.HasSource options.tapeSize text
  /-- If the C source cannot be written, that is reported and no call is made. -/
  unwritable : ∀ problem,
    (prepared session).files.write (sourcePath session path) (utf8Bytes text.toList) =
        .error problem →
      ∃ left,
        buildAndRunProgram program options (path.map File.Path.ofText) session =
            .error (.unwritableFile (sourcePath session path).toText problem) left ∧
          left.toolchain = session.toolchain
  /-- If it can be written, the compiler that is asked for is used, and the course is taken. -/
  written : session.toolchain.accepts options.flags = true → ∀ files,
    (prepared session).files.write (sourcePath session path) (utf8Bytes text.toList) =
        .ok files →
      ∃ name, UsesCompiler options session.toolchain.preferred name ∧
        Follows (buildAndRunProgram program options (path.map File.Path.ofText) session) session
          (Course session.toolchain name
            (fun found =>
              found :: options.flags ++
                ["-o", (binaryPath session).toText, (sourcePath session path).toText])
            (utf8Bytes text.toList) (binaryPath session).toText)
  /-- With flags that no command can have, that compiler is looked up and not called. -/
  unaccepted : session.toolchain.accepts options.flags = false → ∀ files,
    (prepared session).files.write (sourcePath session path) (utf8Bytes text.toList) =
        .ok files →
      ∃ name, UsesCompiler options session.toolchain.preferred name ∧
        Follows (buildAndRunProgram program options (path.map File.Path.ofText) session) session
          (LookupCourse session.toolchain name)

variable
  {source binary name : String}
  {flags : List String}
  {content : List UInt8}
  {session : Session}

/-- The toolchain settles which calls are made and what comes of them. -/
theorem Course.eq
    {toolchain : Toolchain}
    {command : String → List String}
    {calls other : List Call}
    {answer otherAnswer : Outcome Int}
    (course : Course toolchain name command content binary calls answer)
    (alike : Course toolchain name command content binary other otherAnswer) :
    calls = other ∧ answer = otherAnswer := by
  cases course <;> cases alike <;> simp_all

/-- What a course fails for is a failure of the toolchain. -/
theorem Course.isToolchain
    {toolchain : Toolchain}
    {command : String → List String}
    {calls : List Call}
    {failure : Failure}
    (course : Course toolchain name command content binary calls (.error failure)) :
    failure.isToolchain = true := by
  cases course <;> rfl

@[simp]
theorem toolchain_prepared (session : Session) :
    (prepared session).toolchain = session.toolchain := by
  unfold prepared
  dsimp only

@[simp]
theorem scratch_prepared (session : Session) :
    (prepared session).scratch = session.scratch := by
  unfold prepared
  dsimp only

/-- What an action leaves in the directory for temporary files is gone behind it. -/
theorem withScratch_of_answering
    {α : Type}
    {body : File.Path → Action α}
    {answer : Outcome α}
    {left : Session}
    (session : Session)
    (ran : body (scratchPath session) (prepared session) = left.answering answer) :
    ∃ files, withScratch body session = { left with files }.answering answer := by
  refine ⟨left.files.restoreTree session.files
    (session.files.origin (scratchPath session) ++ (scratchPath session).parts), ?_⟩
  unfold withScratch
  dsimp only
  split
  next value kept returned =>
    have same : .ok value kept = left.answering answer := returned.symm.trans ran
    cases answer <;> cases same
    rfl
  next failure kept raised =>
    have same : .error failure kept = left.answering answer := raised.symm.trans ran
    cases answer <;> cases same
    rfl

theorem exists_withScratch_of_error
    {α : Type}
    {body : File.Path → Action α}
    {failure : Failure}
    {left : Session}
    (session : Session)
    (fails : body (scratchPath session) (prepared session) = .error failure left)
    (alike : left.toolchain = session.toolchain) :
    ∃ cleaned, withScratch body session = .error failure cleaned ∧
      cleaned.toolchain = session.toolchain := by
  have ran : body (scratchPath session) (prepared session) = left.answering (.error failure) :=
    fails
  obtain ⟨files, ends⟩ := withScratch_of_answering session ran
  exact ⟨_, ends, alike⟩

/-- Behind a compiler that succeeds, the binary is run, and its status is the answer. -/
theorem compileAndExecute_follows_of_compiled
    {found complaint : String}
    (present : session.toolchain.found.lookup name = some found)
    (compiled : session.toolchain.response 0 = .exited 0 complaint)
    (succeeds :
      compile source binary (some name) flags session =
        .ok (.ofText binary)
          (behindCompiler session name (found :: flags ++ ["-o", binary, source]) content)) :
    Follows (compileAndExecute source binary (some name) flags session) session
      (Course session.toolchain name (fun found => found :: flags ++ ["-o", binary, source])
        content binary) := by
  let command := found :: flags ++ ["-o", binary, source]
  let behind := behindCompiler session name command content
  have executes := execute_eq_response binary behind
  have second : behind.toolchain.response 0 = session.toolchain.response 1 :=
    response_tail session.toolchain
  rw [second] at executes
  have made :
      (behindExecution behind binary).toolchain.calls =
        session.toolchain.calls ++
          [Call.search name, Call.compile command (some content), Call.execute binary] := by
    simp [behindExecution, behind, behindCompiler, behindNotice, behindCall, command]
  unfold compileAndExecute
  rw [Session.bind_of_ok succeeds, executes]
  cases last : session.toolchain.response 1 with
  | refused cause =>
      exact ⟨_, _, _, .notExecuted present compiled last, rfl, made⟩
  | exited status printed =>
      exact ⟨_, _, _, .ran present compiled last, rfl, made⟩

/-- A C file is compiled and its binary is run as the toolchain has it. -/
theorem compileAndExecute_follows
    (session : Session)
    (binary : String)
    (flags : List String)
    (nonempty : name ≠ "")
    (accepted : ∀ found, session.toolchain.found.lookup name = some found →
      session.toolchain.accepts (found :: flags ++ ["-o", binary, source]) = true)
    (holds : session.files.fileNamed? source = some content) :
    Follows (compileAndExecute source binary (some name) flags session) session
      (Course session.toolchain name (fun found => found :: flags ++ ["-o", binary, source])
        content binary) := by
  cases looked : session.toolchain.found.lookup name with
  | none =>
      exact ⟨_, _, _, .notFound looked,
        Session.bind_of_error (compile_of_absent nonempty looked), by simp [behindCall]⟩
  | some found =>
      let command := found :: flags ++ ["-o", binary, source]
      have compiles :=
        compile_of_accepted binary flags nonempty looked (accepted found looked) holds
      have made : (behindCompiler session name command content).toolchain.calls =
          session.toolchain.calls ++
            [Call.search name, Call.compile command (some content)] := by
        simp [behindCompiler, behindNotice, behindCall, command]
      cases first : session.toolchain.response 0 with
      | refused cause =>
          rw [first] at compiles
          exact ⟨_, _, _, .notStarted looked first, Session.bind_of_error compiles, made⟩
      | exited status complaint =>
          rw [first] at compiles
          by_cases successful : status = 0
          · subst successful
            exact compileAndExecute_follows_of_compiled looked first compiles
          · simp only [successful, ↓reduceIte] at compiles
            exact ⟨_, _, _, .rejected looked first successful, Session.bind_of_error compiles,
              made⟩

/-- Where no command can have the flags, the compiler is looked up at most. -/
theorem compileAndExecute_follows_lookup
    (session : Session)
    (nonempty : name ≠ "")
    (unaccepted : ∀ found, session.toolchain.found.lookup name = some found →
      session.toolchain.accepts (found :: flags ++ ["-o", binary, source]) = false) :
    Follows (compileAndExecute source binary (some name) flags session) session
      (LookupCourse session.toolchain name) := by
  cases looked : session.toolchain.found.lookup name with
  | none =>
      exact ⟨_, _, _, .notFound looked,
        Session.bind_of_error (compile_of_absent nonempty looked), by simp [behindCall]⟩
  | some found =>
      have stops := compile_of_unaccepted nonempty looked (unaccepted found looked)
      exact ⟨_, _, _, .notAccepted looked, Session.bind_of_error stops,
        by simp [behindNotice, behindCall]⟩

/-- What follows a course in the directory for temporary files does so as a whole. -/
theorem follows_withScratch
    {body : File.Path → Action Int}
    {course : List Call → Outcome Int → Prop}
    (session : Session)
    (follows : Follows (body (scratchPath session) (prepared session)) (prepared session) course) :
    Follows (withScratch body session) session course := by
  obtain ⟨calls, answer, left, taken, ran, made⟩ := follows
  obtain ⟨files, scratched⟩ := withScratch_of_answering session ran
  rw [toolchain_prepared] at made
  exact ⟨calls, answer, { left with files }, taken, scratched, made⟩

section

variable
  (plain : '\x00' ∉ (binaryPath session).toText.toList)
  (plainSource : '\x00' ∉ source.toList)
  (nonempty : name ≠ "")

include plain plainSource nonempty

/-- Building and running a C file takes its course. -/
theorem buildAndRun_follows
    (accepted : session.toolchain.accepts flags = true)
    (holds : (prepared session).files.fileNamed? source = some content) :
    Follows (buildAndRun source (some name) flags session) session
      (Course session.toolchain name
        (fun found =>
          found :: flags ++ ["-o", (binaryPath session).toText, source])
        content (binaryPath session).toText) := by
  have follows := compileAndExecute_follows (prepared session) (binaryPath session).toText flags
    nonempty (fun found looked => by
      rw [accepts_command looked plain plainSource, toolchain_prepared]
      exact accepted) holds
  rw [toolchain_prepared] at follows
  exact follows_withScratch session follows

/-- Building and running a C file with flags that no command can have stops at the lookup. -/
theorem buildAndRun_follows_lookup
    (unaccepted : session.toolchain.accepts flags = false) :
    Follows (buildAndRun source (some name) flags session) session
      (LookupCourse session.toolchain name) := by
  have refused : ∀ found, (prepared session).toolchain.found.lookup name = some found →
      (prepared session).toolchain.accepts
        (found :: flags ++ ["-o", (binaryPath session).toText, source]) = false := by
    intro found looked
    rw [accepts_command looked plain plainSource, toolchain_prepared]
    exact unaccepted
  have follows := compileAndExecute_follows_lookup (prepared session) nonempty refused
  rw [toolchain_prepared] at follows
  exact follows_withScratch session follows

end

theorem isSpelled_sourcePath
    (session : Session)
    (path : Option String) :
    (sourcePath session path).IsSpelled := by
  cases path with
  | some text =>
      exact File.Path.isSpelled_ofText text
  | none =>
      have name : File.Path.IsName "tmp_bf_program.c" := ⟨by decide, by decide⟩
      exact (File.Path.isSpelled_ofText session.scratch).child name

theorem isPlain_sourcePath
    {path : Option String}
    (hosted : Hosted session)
    (free : ∀ text, path = some text → '\x00' ∉ text.toList) :
    (sourcePath session path).IsPlain := by
  cases path with
  | some text =>
      exact File.Path.isPlain_ofText (free text rfl)
  | none =>
      exact (File.Path.isPlain_ofText hosted.scratch).child (by decide)

theorem Hosted.withJournal
    (hosted : Hosted session)
    (journal : Array Entry) :
    Hosted { session with journal } :=
  ⟨hosted.working, hosted.scratch⟩

theorem Hosted.prepared (hosted : Hosted session) :
    (prepared session).files.nodeAt? (prepared session).files.workingDirectory =
      some .directory := by
  have grown : (Build.prepared session).files.Extends session.files := by
    unfold Build.prepared
    dsimp only
    exact session.files.extends_makeDirectories _
  rw [grown.workingDirectory]
  exact grown.nodes _ _ hosted.working

/-- What was written to the C file is what the compiler finds there. -/
theorem fileNamed?_of_write
    {path : Option String}
    {files : File.Store}
    (hosted : Hosted session)
    (writes : (prepared session).files.write (sourcePath session path) content = .ok files)
    (location : File.Location) :
    (files.makeDirectories location).fileNamed? (sourcePath session path).toText =
      some content := by
  have spelled := isSpelled_sourcePath session path
  have nonempty := File.Store.parts_ne_nil_of_write hosted.prepared writes
  have readable := (files.extends_makeDirectories location).read
    (File.Store.read_of_write writes)
  unfold File.Store.fileNamed?
  rw [if_pos (spelled.namesEntry_toText nonempty), spelled.ofText_toText, readable]
  rfl

theorem getD_eq_sourcePath
    (path : Option String)
    (session : Session) :
    (path.map File.Path.ofText).getD ((scratchPath session).child "tmp_bf_program.c") =
      sourcePath session path := by
  cases path <;> rfl

section

variable
  {program : Program}
  {options : TranspileOptions}
  {path : Option String}

/-- Where turning the program into C fails, building and running it does, without a call. -/
theorem exists_buildAndRunProgram_of_error
    {failure : Failure}
    {journal : Array Entry}
    (fails :
      Session.transpile program options (some (sourcePath session path)) (prepared session) =
        .error failure { prepared session with journal }) :
    ∃ left,
      buildAndRunProgram program options (path.map File.Path.ofText) session =
          .error failure left ∧
        left.toolchain = session.toolchain := by
  have stops :
      transpileAndRun program options (sourcePath session path) (prepared session) =
        .error failure { prepared session with journal } :=
    Session.bind_of_error fails
  rw [← getD_eq_sourcePath] at stops
  exact exists_withScratch_of_error session stops (toolchain_prepared session)

/-- Behind its C source, a program is built and run as that source is. -/
theorem buildAndRunProgram_follows
    {course : List Call → Outcome Int → Prop}
    {text : String}
    {written : Session}
    (transpiles :
      Session.transpile program options (some (sourcePath session path)) (prepared session) =
        .ok text written)
    (alike : written.toolchain = session.toolchain)
    (follows :
      Follows
        (buildAndRun (sourcePath session path).toText
          (some (options.resolvedCompiler session.toolchain.preferred)) options.flags written)
        written course) :
    Follows (buildAndRunProgram program options (path.map File.Path.ofText) session) session
      course := by
  obtain ⟨calls, answer, left, taken, ran, made⟩ := follows
  have inner :
      Follows
        (transpileAndRun program options (sourcePath session path) (prepared session))
        (prepared session) course := by
    refine ⟨calls, answer, left, taken, ?_, ?_⟩
    · rw [transpileAndRun, Session.bind_of_ok transpiles, Session.get_bind, alike]
      exact ran
    · rw [made, alike, toolchain_prepared]
  rw [← getD_eq_sourcePath] at inner
  exact follows_withScratch session inner

/-- What building and running does is settled by the C source of the program. -/
theorem buildsOnce_of_hasSource
    {text : String}
    (generates : program.HasSource options.tapeSize text)
    (free : ∀ text, path = some text → '\x00' ∉ text.toList)
    (hosted : Hosted session) :
    BuildsOnce program options path session text := by
  have plain := isPlain_sourcePath hosted free
  have uses := usesCompiler_resolvedCompiler options session.toolchain.preferred
  obtain ⟨journal, transpiles⟩ :=
    Session.transpile_eq_write generates plain (prepared session)
  let written (files : File.Store) : Session := { prepared session with files, journal }
  have alike (files : File.Store) : (written files).toolchain = session.toolchain := by
    simp only [written, toolchain_prepared]
  have sameFlags (files : File.Store) :
      (written files).toolchain.accepts options.flags =
        session.toolchain.accepts options.flags := by
    rw [alike]
  have sameBinary (files : File.Store) : binaryPath (written files) = binaryPath session := by
    simp only [written, binaryPath, scratchPath, scratch_prepared]
  have plainBinary (files : File.Store) :
      '\x00' ∉ (binaryPath (written files)).toText.toList := by
    rw [sameBinary]
    exact ((File.Path.isPlain_ofText hosted.scratch).child (by decide)).toText
  refine ⟨generates, ?_, ?_, ?_⟩
  · intro problem closed
    rw [closed] at transpiles
    exact exists_buildAndRunProgram_of_error transpiles
  · intro accepted files writes
    rw [writes] at transpiles
    have follows := buildAndRun_follows (plainBinary files)
      plain.toText uses.ne_empty ((sameFlags files).trans accepted)
      (fileNamed?_of_write hosted writes _)
    rw [alike, sameBinary] at follows
    exact ⟨_, uses, buildAndRunProgram_follows transpiles (alike files) follows⟩
  · intro unaccepted files writes
    rw [writes] at transpiles
    have follows := buildAndRun_follows_lookup (plainBinary files)
      plain.toText uses.ne_empty ((sameFlags files).trans unaccepted)
    rw [alike] at follows
    exact ⟨_, uses, buildAndRunProgram_follows transpiles (alike files) follows⟩

/-- Where the tape size cannot be written, building and running fails without a call. -/
theorem exists_buildAndRunProgram_of_not_hasNumeral
    (balanced : program.IsBalanced)
    (cells : 0 < options.tapeSize)
    (huge : Text.hasNumeral options.tapeSize = false)
    (path : Option String)
    (session : Session) :
    ∃ left,
      buildAndRunProgram program options (path.map File.Path.ofText) session =
          .error .numeralTooLong left ∧
        left.toolchain = session.toolchain := by
  obtain ⟨journal, stops⟩ := Session.transpile_of_not_hasNumeral balanced cells huge
    (some (sourcePath session path)) (prepared session)
  exact exists_buildAndRunProgram_of_error stops

end

/-- A session on a host where the usual compiler is found and no call was made. -/
def compilerSession : Session where
  host := .large
  files := .empty ["home"]
  toolchain :=
    { preferred := none
      found := [("cc", "/usr/bin/cc")]
      responses := []
      calls := #[]
      startsProcesses := true
      found_plain := fun _ => by decide }
  channel := .empty
  journal := #[]
  scratch := "/tmp"
  elapsed := "0.00"

end Build

end Brainfuck
