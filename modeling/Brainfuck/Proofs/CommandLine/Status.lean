import Brainfuck.Proofs.CommandLine.Stages

namespace Brainfuck.CommandLine

/-!
# Exit statuses

A command line that names a program goes through its stages in order, and the first
one that fails settles its status: the program is read, its brackets are paired, and
then it is interpreted, turned into C, or built and run.  The failures that it does
not report are those of arguments which no stage has a use for.
-/

/-- Whether the arguments are valid and name a program, be it in a program file or not. -/
structure Arguments.PassesChecks
    (arguments : Arguments)
    (origin : Origin)
    (tapeSize : Int) :
    Prop where
  sized : arguments.tapeSize = .value tapeSize
  cells : 1 ≤ tapeSize
  modes : modeError? arguments = none
  named : origin? arguments = some origin

/-- The path of an entry of the working directory. -/
def entryPath (name : String) : File.Path where
  rootSlashes := 0
  parts := [name]

/-- Where the C source of a program that is not run goes. -/
inductive NamesSource (arguments : Arguments) : Origin → File.Path → Prop where
  | given
      {origin : Origin}
      {text : String}
      (output : arguments.output = some (.value text))
      (nonempty : text ≠ "") :
      NamesSource arguments origin (.ofText text)
  | parsed
      {program : String}
      (silent : ∀ text, arguments.output = some (.value text) → text = "") :
      NamesSource arguments (.parsed program) (entryPath "bf_program.c")
  | file
      {name stem : String}
      (silent : ∀ text, arguments.output = some (.value text) → text = "")
      (component : (File.Path.ofText name).name = stem ++ ".bf") :
      NamesSource arguments (.file name) (entryPath (stem ++ ".c"))

/--
How a command line ends, and which failure it reports: by the first stage that fails,
or behind all of them.
-/
inductive Verdict
    (arguments : Arguments)
    (origin : Origin)
    (tapeSize : Int)
    (session : Session) :
    Exit → Option Failure → Prop where
  | unreadable
      {name : String}
      {problem : File.Problem}
      (file : origin = .file name)
      (closed : session.files.read (.ofText name) = .error problem) :
      Verdict arguments origin tapeSize session (.returned 2)
        (some (.unreadableFile (File.Path.ofText name).toText problem))
  /-- A path that was given without a value is missed before the program is looked at. -/
  | nameless
      {source : Source}
      (holds : origin.Holds session source)
      (compiles : arguments.compile = true)
      (nameless : arguments.output = some .nothing) :
      Verdict arguments origin tapeSize session (.raised .pathMissing) none
  | unbalanced
      {source : Source}
      {fault : LoopFault}
      (holds : origin.Holds session source)
      (named : arguments.NamesPath)
      (unbalanced : ¬ (Program.ofOpcodes (Buffer.commands source.toBytes)).IsBalanced)
      (reported :
        (Program.ofOpcodes (Buffer.commands source.toBytes)).resolveLoops =
          .error (.unbalancedLoops fault)) :
      Verdict arguments origin tapeSize session (.returned 2) (some (.unbalancedLoops fault))
  | interpreted
      {source : Source}
      {exit : Exit}
      {failure? : Option Failure}
      (holds : origin.Holds session source)
      (interprets : arguments.transpiles = false)
      (ends :
        Interpreting session.host (.ofOpcodes (Buffer.commands source.toBytes)) tapeSize.toNat
          session.channel exit failure?) :
      Verdict arguments origin tapeSize session exit failure?
  | generated
      {source : Source}
      {exit : Exit}
      {failure? : Option Failure}
      (holds : origin.Holds session source)
      (intermediate : arguments.intermediate = true)
      (ends :
        Generating (.ofOpcodes (Buffer.commands source.toBytes)) tapeSize.toNat
          (sourcePath arguments origin) session.files exit failure?) :
      Verdict arguments origin tapeSize session exit failure?
  | built
      {source : Source}
      {exit : Exit}
      {failure? : Option Failure}
      (holds : origin.Holds session source)
      (compiles : arguments.compile = true)
      (named : arguments.NamesPath)
      (ends :
        Building (.ofOpcodes (Buffer.commands source.toBytes))
          (generationFor arguments tapeSize) (keptText? arguments) session exit failure?) :
      Verdict arguments origin tapeSize session exit failure?

/-- How a command line that names a program ends. -/
structure EndsAtFirstFailure
    (words : List String)
    (arguments : Arguments)
    (origin : Origin)
    (tapeSize : Int)
    (session : Session) :
    Prop where
  /-- A file that is no program file is refused, whatever the session holds. -/
  usage : ∀ name, origin = .file name → isProgramFile name = false →
    ∃ text, ∀ fuel other,
      run words fuel other = ⟨.returned 1, arguments.verbose, say other text⟩
  /-- Where the command line ends, it is as the first stage that fails has it. -/
  ends : (∀ name, origin = .file name → isProgramFile name = true) →
    ∀ fuel, (run words fuel session).exit = .unfinished ∨
      ∃ exit failure?, Verdict arguments origin tapeSize session exit failure? ∧
        (run words fuel session).Shows exit failure?
  /-- Where a stage is the first one that fails, the command line ends, and so. -/
  comes : (∀ name, origin = .file name → isProgramFile name = true) →
    ∀ exit failure?, Verdict arguments origin tapeSize session exit failure? →
      ∃ fuel, (run words fuel session).Shows exit failure?
  /-- No failure that the command line reports is raised as well. -/
  contained : ∀ fuel failure, (run words fuel session).exit = .raised failure →
    failure.isReported = false
  /-- C source that is not run goes to one path, and nothing else is written or called. -/
  writes : ∀ fuel, arguments.intermediate = true →
    (run words fuel session).exit = .returned 0 →
      ∃ source text location journal,
        origin.Holds session source ∧
          (Program.ofOpcodes (Buffer.commands source.toBytes)).HasSource tapeSize.toNat text ∧
          NamesSource arguments origin (sourcePath arguments origin) ∧
          session.files.locate (sourcePath arguments origin) = .ok location ∧
          (run words fuel session).session =
            { session with
              files := session.files.insert location (.file (utf8Bytes text.toList))
              journal }

variable
  {arguments : Arguments}
  {tapeSize : Int}
  {origin : Origin}
  {source : Source}
  {session : Session}
  {words : List String}
  {exit : Exit}
  {failure? : Option Failure}

theorem Arguments.PassesChecks.askFor
    (checked : arguments.PassesChecks origin tapeSize)
    (extension : ∀ name, origin = .file name → isProgramFile name = true) :
    arguments.AskFor origin tapeSize :=
  ⟨checked.sized, checked.cells, checked.modes, checked.named, extension⟩

/-- Only a file can be no program file. -/
theorem Arguments.PassesChecks.askFor_or
    (checked : arguments.PassesChecks origin tapeSize) :
    arguments.AskFor origin tapeSize ∨
      ∃ name, origin = .file name ∧ isProgramFile name = false := by
  cases origin with
  | parsed text =>
      exact .inl (checked.askFor nofun)
  | file name =>
      cases extension : isProgramFile name with
      | false =>
          exact .inr ⟨name, rfl, extension⟩
      | true =>
          refine .inl (checked.askFor ?_)
          intro _ same
          cases same
          exact extension

/-- A file that is no program file is refused before it is looked at. -/
theorem run_of_not_isProgramFile
    {name : String}
    (parsed : parseArguments words = .ok arguments)
    (checked : arguments.PassesChecks (.file name) tapeSize)
    (foreign : isProgramFile name = false)
    (fuel : Nat)
    (session : Session) :
    run words fuel session =
      ⟨.returned 1, arguments.verbose, say session
        s!"No .bf file provided. Please provide a file that ends in {programExtension}"⟩ := by
  have cells := Int.not_lt.mpr checked.cells
  simp only [run, parsed, runArguments, checked.sized, cells, ↓reduceIte, checked.modes,
    runNamed, checked.named, foreign, Bool.false_eq_true]
  rfl

/-! Where C source goes. -/

/-- A name is the text of the path of an entry. -/
theorem ofText_eq_entryPath
    {name : String}
    (component : File.Path.IsName name) :
    File.Path.ofText name = entryPath name := by
  have spelled : (entryPath name).IsSpelled := by
    refine ⟨Nat.zero_le 2, ?_⟩
    intro part held
    rw [List.mem_singleton.mp held]
    exact component
  have shown : (entryPath name).toText = name := by
    simp [File.Path.toText, entryPath, File.joinBySlashes]
  rw [← spelled.ofText_toText, shown]

theorem silent_of_given?
    (silent : given? arguments.output = none) :
    ∀ text, arguments.output = some (.value text) → text = "" := by
  intro text output
  by_contra nonempty
  rw [given?_eq_some_iff.mpr ⟨output, nonempty⟩] at silent
  cases silent

theorem sourceNameFor_eq
    {name stem : String}
    (component : (File.Path.ofText name).name = stem ++ ".bf") :
    sourceNameFor name = stem ++ ".c" := by
  unfold sourceNameFor
  rw [component]
  have length : ".bf".length = 3 := rfl
  simp [programExtension, sourceExtension, length]

theorem mem_parts_of_component
    {name stem : String}
    (component : (File.Path.ofText name).name = stem ++ ".bf") :
    stem ++ ".bf" ∈ (File.Path.ofText name).parts := by
  rw [← component]
  apply File.Path.name_mem_parts
  rw [component]
  intro empty
  have characters := congrArg String.toList empty
  simp at characters

/-- The name of a generated file is that of an entry, as the name of the program file is. -/
theorem isName_of_component
    {name stem : String}
    (component : (File.Path.ofText name).name = stem ++ ".bf") :
    File.Path.IsName (stem ++ ".c") := by
  obtain ⟨_, whole⟩ :=
    (File.Path.isSpelled_ofText name).parts _ (mem_parts_of_component component)
  constructor
  · apply File.isComponent_of_length
    simp
  · simp only [String.toList_append, List.mem_append, not_or] at whole ⊢
    exact ⟨whole.1, by decide⟩

theorem namesSource_sourcePath
    (extension : ∀ name, origin = .file name → isProgramFile name = true) :
    NamesSource arguments origin (sourcePath arguments origin) := by
  unfold sourcePath
  cases given : given? arguments.output with
  | some text =>
      obtain ⟨output, nonempty⟩ := given?_eq_some_iff.mp given
      exact .given output nonempty
  | none =>
      have silent := silent_of_given? given
      cases origin with
      | parsed program =>
          have name : File.Path.IsName parsedSourceName := ⟨by decide, by decide⟩
          dsimp only
          rw [ofText_eq_entryPath name]
          exact .parsed silent
      | file name =>
          have suffix := List.isSuffixOf_iff_suffix.mp (extension name rfl)
          obtain ⟨stem, component⟩ :=
            File.Path.exists_name_ofText (by decide) (by decide) suffix
          dsimp only
          rw [sourceNameFor_eq component, ofText_eq_entryPath (isName_of_component component)]
          exact .file silent component

/-- Whether no path that the arguments give has a null character. -/
def Arguments.IsPlain (arguments : Arguments) : Prop :=
  ∀ text, arguments.file = some text ∨ arguments.output = some (.value text) →
    '\x00' ∉ text.toList

theorem NamesSource.isPlain
    {path : File.Path}
    (names : NamesSource arguments origin path)
    (plain : arguments.IsPlain)
    (file : ∀ name, origin = .file name → arguments.file = some name) :
    path.IsPlain := by
  cases names with
  | given output =>
      exact File.Path.isPlain_ofText (plain _ (.inr output))
  | parsed =>
      unfold File.Path.IsPlain entryPath
      decide
  | @file name stem silent component =>
      have free := File.Path.isPlain_ofText (plain name (.inl (file name rfl)))
      have whole := free _ (mem_parts_of_component component)
      rw [String.toList_append, List.mem_append, not_or] at whole
      intro part held
      rw [List.mem_singleton.mp held, String.toList_append, List.mem_append, not_or]
      exact ⟨whole.1, by decide⟩

theorem file_of_origin?
    (named : origin? arguments = some origin) :
    ∀ name, origin = .file name → arguments.file = some name := by
  rintro name rfl
  unfold origin? at named
  split at named <;> cases named
  assumption

/-! The first stage that fails. -/

section

variable
  (parsed : parseArguments words = .ok arguments)
  (asked : arguments.AskFor origin tapeSize)

include parsed asked

theorem shows_of_unreadable
    {name : String}
    {problem : File.Problem}
    (file : origin = .file name)
    (free : '\x00' ∉ name.toList)
    (closed : session.files.read (.ofText name) = .error problem)
    (fuel : Nat) :
    (run words fuel session).Shows (.returned 2)
      (some (.unreadableFile (File.Path.ofText name).toText problem)) := by
  have loads := Session.loadFile_eq_read (File.Path.isPlain_ofText free)
    session.host.canRead_defaultChunkSize
  rw [closed] at loads
  have performed :
      perform arguments tapeSize origin fuel session =
        .error (.unreadableFile (File.Path.ofText name).toText problem) session := by
    rw [file]
    exact Session.bind_of_error loads
  exact shows_of_reported parsed asked performed rfl

variable (holds : origin.Holds session source)

include holds

theorem shows_of_unbalanced
    {fault : LoopFault}
    (named : arguments.NamesPath)
    (reported :
      (Program.ofOpcodes (Buffer.commands source.toBytes)).resolveLoops =
        .error (.unbalancedLoops fault))
    (fuel : Nat) :
    (run words fuel session).Shows (.returned 2) (some (.unbalancedLoops fault)) := by
  obtain ⟨_, loads⟩ := load_of_holds holds
  have refused := run_of_unresolved reported parsed asked loads fuel
  refine ⟨refused.status named, ?_⟩
  intro _ same
  cases same
  exact refused.message named

end

theorem intermediate_eq_false_of_compile
    (parsed : parseArguments words = .ok arguments)
    (compiles : arguments.compile = true) :
    arguments.intermediate = false := by
  cases intermediate : arguments.intermediate with
  | false =>
      rfl
  | true =>
      rw [hasOneMode_of_parseArguments parsed intermediate] at compiles
      cases compiles

theorem Arguments.IsPlain.keptText?
    (plain : arguments.IsPlain) :
    ∀ text, keptText? arguments = some text → '\x00' ∉ text.toList := by
  intro text kept
  unfold CommandLine.keptText? at kept
  split at kept
  · next output =>
      cases kept
      exact plain text (.inr output)
  · cases kept

theorem Arguments.AskFor.isPlain_sourcePath
    (asked : arguments.AskFor origin tapeSize)
    (plain : arguments.IsPlain) :
    (sourcePath arguments origin).IsPlain :=
  (namesSource_sourcePath asked.extension).isPlain plain (file_of_origin? asked.named)

section

variable
  (parsed : parseArguments words = .ok arguments)
  (asked : arguments.AskFor origin tapeSize)
  (plain : arguments.IsPlain)
  (hosted : arguments.compile = true → Build.Hosted session)

include parsed asked plain hosted

/-- Where a stage is the first one that fails, some amount of fuel lasts to it. -/
theorem Verdict.exists_shows
    (verdict : Verdict arguments origin tapeSize session exit failure?) :
    ∃ fuel, (run words fuel session).Shows exit failure? := by
  cases verdict with
  | unreadable file closed =>
      have free := plain _ (.inl (file_of_origin? asked.named _ file))
      exact ⟨0, shows_of_unreadable parsed asked file free closed 0⟩
  | nameless holds compiles nameless =>
      have runs := intermediate_eq_false_of_compile parsed compiles
      exact ⟨0, shows_of_nameless parsed asked holds compiles runs nameless 0⟩
  | unbalanced holds named _ reported =>
      exact ⟨0, shows_of_unbalanced parsed asked holds named reported 0⟩
  | @interpreted source _ _ holds interprets ends =>
      let options := optionsFor tapeSize !arguments.noJit
      have onTape :
          Interpreting session.host (.ofOpcodes (Buffer.commands source.toBytes))
            options.tapeSize session.channel exit failure? := ends
      obtain ⟨answer, _, ⟨fuel, left, ran, _⟩, rfl, rfl⟩ :=
        onTape.exists_runEnds (Program.toSource_ofOpcodes _) (batchSteps_optionsFor tapeSize _)
      exact ⟨fuel, shows_of_answer parsed asked interprets holds ran⟩
  | generated holds intermediate ends =>
      exact ⟨0, shows_of_generating parsed asked holds intermediate
        (asked.isPlain_sourcePath plain) ends 0⟩
  | built holds compiles named ends =>
      have runs := intermediate_eq_false_of_compile parsed compiles
      exact ⟨0, shows_of_building parsed asked holds compiles runs (named compiles)
        plain.keptText? (hosted compiles) ends 0⟩

/-- Where a program that is read is balanced, its mode has the next stages. -/
theorem exists_verdict_of_isBalanced
    (holds : origin.Holds session source)
    (named : arguments.NamesPath)
    (balanced : (Program.ofOpcodes (Buffer.commands source.toBytes)).IsBalanced)
    (fuel : Nat) :
    (run words fuel session).exit = .unfinished ∨
      ∃ exit failure?, Verdict arguments origin tapeSize session exit failure? ∧
        (run words fuel session).Shows exit failure? := by
  have loaded : (Program.ofOpcodes (Buffer.commands source.toBytes)).IsLoaded :=
    .ofSource source (Program.load_eq source)
  have cells : 0 < tapeSize.toNat := by
    have positive := asked.cells
    omega
  have numeral : Text.hasNumeral tapeSize.toNat = true := by
    have whole : tapeSize.toNat = tapeSize.natAbs := by omega
    rw [whole]
    exact hasNumeral_of_parseArguments parsed asked.sized
  cases compiles : arguments.compile with
  | true =>
      have sized : 0 < (generationFor arguments tapeSize).tapeSize := cells
      obtain ⟨exit, failure?, ends⟩ :=
        exists_building loaded balanced sized numeral (accepts_generationFor _ arguments tapeSize)
          plain.keptText? (hosted compiles)
      have runs := intermediate_eq_false_of_compile parsed compiles
      exact .inr ⟨exit, failure?, .built holds compiles named ends,
        shows_of_building parsed asked holds compiles runs (named compiles) plain.keptText?
          (hosted compiles) ends fuel⟩
  | false =>
      cases intermediate : arguments.intermediate with
      | true =>
          obtain ⟨exit, failure?, ends⟩ :=
            exists_generating loaded balanced cells numeral (sourcePath arguments origin)
              session.files
          exact .inr ⟨exit, failure?, .generated holds intermediate ends,
            shows_of_generating parsed asked holds intermediate
              (asked.isPlain_sourcePath plain) ends fuel⟩
      | false =>
          have interprets : arguments.transpiles = false := by
            rw [Arguments.transpiles, intermediate, compiles, Bool.or_false]
          let options := optionsFor tapeSize !arguments.noJit
          rcases Session.eq_resultOf_or
              (Session.runProgram (.ofOpcodes (Buffer.commands source.toBytes)) options fuel
                session) with
            ⟨left, ran⟩ | ⟨answer, left, ran⟩
          · left
            rw [(run_endsAfter parsed asked interprets holds fuel).exit, ran]
            rfl
          · right
            have ends := interpreting_of_runEnds (Program.toSource_ofOpcodes _) cells
              (batchSteps_optionsFor tapeSize _) balanced ⟨fuel, left, ran, rfl⟩
            exact ⟨_, _, .interpreted holds interprets ends,
              shows_of_answer parsed asked interprets holds ran⟩

/-- A command line that ends does so at the first stage that fails, or behind all of them. -/
theorem exists_verdict_of_run (fuel : Nat) :
    (run words fuel session).exit = .unfinished ∨
      ∃ exit failure?, Verdict arguments origin tapeSize session exit failure? ∧
        (run words fuel session).Shows exit failure? := by
  have behind {source : Source} (holds : origin.Holds session source) :
      (run words fuel session).exit = .unfinished ∨
        ∃ exit failure?, Verdict arguments origin tapeSize session exit failure? ∧
          (run words fuel session).Shows exit failure? := by
    by_cases named : arguments.NamesPath
    · cases resolved :
          (Program.ofOpcodes (Buffer.commands source.toBytes)).resolveLoops with
      | ok table =>
          have balanced := (Program.matches_of_resolveLoops resolved).1
          exact exists_verdict_of_isBalanced parsed asked plain hosted holds named balanced fuel
      | error failure =>
          obtain ⟨fault, rfl⟩ := Program.exists_fault_of_unresolved
            (Program.toSource_ofOpcodes _) resolved
          have unbalanced :
              ¬ (Program.ofOpcodes (Buffer.commands source.toBytes)).IsBalanced := by
            intro balanced
            obtain ⟨_, succeeds⟩ := balanced.exists_resolveLoops
            rw [resolved] at succeeds
            cases succeeds
          exact .inr ⟨_, _, .unbalanced holds named unbalanced resolved,
            shows_of_unbalanced parsed asked holds named resolved fuel⟩
    · have compiles : arguments.compile = true := by
        by_contra other
        exact named fun same => absurd same other
      have nameless : arguments.output = some .nothing := by
        by_contra other
        exact named fun _ => other
      have runs := intermediate_eq_false_of_compile parsed compiles
      exact .inr ⟨_, _, .nameless holds compiles nameless,
        shows_of_nameless parsed asked holds compiles runs nameless fuel⟩
  cases program : origin with
  | parsed text =>
      rw [program] at behind
      exact behind (.parsed text)
  | file name =>
      have free := plain _ (.inl (file_of_origin? asked.named _ program))
      cases found : session.files.read (.ofText name) with
      | error problem =>
          exact .inr ⟨_, _, .unreadable rfl found,
            shows_of_unreadable parsed asked program free found fuel⟩
      | ok content =>
          rw [program] at behind
          exact behind (.file free found)

omit hosted in
/-- Where C source that is not run is written, nothing else is done. -/
theorem exists_insert_of_intermediate
    (verdict : Verdict arguments origin tapeSize session (.returned 0) failure?)
    (intermediate : arguments.intermediate = true)
    (fuel : Nat) :
    ∃ source text location journal,
      origin.Holds session source ∧
        (Program.ofOpcodes (Buffer.commands source.toBytes)).HasSource tapeSize.toNat text ∧
        NamesSource arguments origin (sourcePath arguments origin) ∧
        session.files.locate (sourcePath arguments origin) = .ok location ∧
        (run words fuel session).session =
          { session with
            files := session.files.insert location (.file (utf8Bytes text.toList))
            journal } := by
  cases verdict with
  | interpreted _ interprets =>
      rw [Arguments.transpiles_of_intermediate intermediate] at interprets
      cases interprets
  | built _ compiles =>
      rw [intermediate_eq_false_of_compile parsed compiles] at intermediate
      cases intermediate
  | @generated source _ _ holds _ ends =>
      cases ends with
      | @written text left generates writes =>
          obtain ⟨location, found, _, rfl⟩ := File.Store.write_eq_ok_iff.mp writes
          obtain ⟨journal, ends⟩ := run_of_written parsed asked holds intermediate
            (asked.isPlain_sourcePath plain) generates writes fuel
          refine ⟨source, text, location, journal, holds, generates,
            namesSource_sourcePath asked.extension, found, ?_⟩
          rw [ends]

end

theorem Verdict.isReported_eq_false
    {failure : Failure}
    (verdict : Verdict arguments origin tapeSize session (.raised failure) failure?) :
    failure.isReported = false := by
  cases verdict with
  | nameless =>
      rfl
  | interpreted _ _ ends =>
      cases ends with
      | oversized _ size =>
          exact size
  | generated _ _ ends =>
      cases ends
  | built _ _ _ ends =>
      cases ends

/-- A command line that names a program ends at the first stage that fails. -/
theorem endsAtFirstFailure_of_passesChecks
    (parsed : parseArguments words = .ok arguments)
    (checked : arguments.PassesChecks origin tapeSize)
    (plain : arguments.IsPlain)
    (hosted : arguments.compile = true → Build.Hosted session) :
    EndsAtFirstFailure words arguments origin tapeSize session where
  usage name file foreign := by
    subst file
    exact ⟨_, run_of_not_isProgramFile parsed checked foreign⟩
  ends extension fuel :=
    exists_verdict_of_run parsed (checked.askFor extension) plain hosted fuel
  comes extension _ _ verdict :=
    verdict.exists_shows parsed (checked.askFor extension) plain hosted
  contained fuel failure raised := by
    rcases checked.askFor_or with asked | ⟨name, rfl, foreign⟩
    · rcases exists_verdict_of_run parsed asked plain hosted fuel with
        unfinished | ⟨_, _, verdict, ends⟩
      · rw [unfinished] at raised
        cases raised
      · rw [← ends.exit, raised] at verdict
        exact verdict.isReported_eq_false
    · rw [run_of_not_isProgramFile parsed checked foreign] at raised
      cases raised
  writes fuel intermediate status := by
    rcases checked.askFor_or with asked | ⟨name, rfl, foreign⟩
    · rcases exists_verdict_of_run parsed asked plain hosted fuel with
        unfinished | ⟨_, _, verdict, ends⟩
      · rw [unfinished] at status
        cases status
      · rw [← ends.exit, status] at verdict
        exact exists_insert_of_intermediate parsed asked plain verdict intermediate fuel
    · rw [run_of_not_isProgramFile parsed checked foreign] at status
      cases status

/-- A session on a host without any file or program. -/
def bareSession : Session where
  host := .large
  files := .empty []
  toolchain := .none
  channel := .empty
  journal := #[]
  scratch := "/tmp/scratch"
  elapsed := "0.00"

/-- A program that is to be built where no compiler is found. -/
theorem endsAtFirstFailure_without_compiler :
    ∃ arguments,
      parseArguments ["-c", "-p", "+."] = .ok arguments ∧
        arguments.PassesChecks (.parsed "+.") 30000 ∧
        arguments.IsPlain ∧
        Build.Hosted bareSession ∧
        EndsAtFirstFailure ["-c", "-p", "+."] arguments (.parsed "+.") 30000 bareSession ∧
        (run ["-c", "-p", "+."] 0 bareSession).exit = .returned 3 := by
  let arguments : Arguments :=
    { Arguments.initial with compile := true, parse := some (.value "+.") }
  have parsed : parseArguments ["-c", "-p", "+."] = .ok arguments := by
    decide +kernel
  have checked : arguments.PassesChecks (.parsed "+.") 30000 :=
    ⟨rfl, by decide, rfl, rfl⟩
  have plain : arguments.IsPlain := by
    rintro text (file | output)
    · cases file
    · cases output
  have hosted : Build.Hosted bareSession := ⟨rfl, by decide⟩
  exact ⟨arguments, parsed, checked, plain, hosted,
    endsAtFirstFailure_of_passesChecks parsed checked plain fun _ => hosted, by decide +kernel⟩

/-- A tape whose size is no size, and a path without a value, are not reported. -/
theorem run_raises_unreported :
    (run ["-n", "9223372036854775808", "-p", "+."] 1 bareSession).exit =
        .raised (.tapeTooLarge 9223372036854775808) ∧
      (run ["-c", "-o--", "-p", "+"] 1 bareSession).exit = .raised .pathMissing := by
  constructor <;> decide +kernel

end Brainfuck.CommandLine
