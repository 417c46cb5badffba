import Brainfuck.Proofs.CommandLine.Modes
import Brainfuck.Proofs.Loop.Acceptance
import Brainfuck.Proofs.Session.Unresolved

namespace Brainfuck

/-!
# Nothing happens before loops are resolved

A loaded program whose brackets are not balanced is refused with one and the same
failure, whatever is to be done with it.  From the command line it takes the status
of a program that cannot be run: it is refused before a compiler is looked for.
-/

namespace CommandLine

variable
  {program : Program}
  {failure : Failure}
  {arguments : Arguments}
  {tapeSize : Int}
  {origin : Origin}
  {session loaded left : Session}

theorem undisturbed_of_load
    (loads : load origin session = .ok program loaded) :
    session.Undisturbed loaded := by
  cases origin with
  | parsed text =>
      exact Session.undisturbed_of_loadSource loads
  | file name =>
      exact Session.undisturbed_of_loadFile loads

/--
Whether the path of the generated file is not missing.  A path of two dashes is
dropped, and a program that is to be compiled and run is not looked at then.
-/
def Arguments.NamesPath (arguments : Arguments) : Prop :=
  arguments.compile = true → arguments.output ≠ some .nothing

/--
The failure that arguments meet with where a program is refused: that of the program,
or that of the missing path, which comes first.
-/
inductive Arguments.MeetsWith
    (arguments : Arguments)
    (failure : Failure) :
    Failure → Prop where
  | own (named : arguments.NamesPath) :
      MeetsWith arguments failure failure
  | pathless (missing : ¬ arguments.NamesPath) :
      MeetsWith arguments failure .pathMissing

/-- Whether what the arguments ask for is refused, with the failure that they meet with. -/
def Arguments.TurnsAway
    {α : Type}
    (arguments : Arguments)
    (session : Session)
    (action : Action α)
    (failure : Failure) :
    Prop :=
  ∃ reported, session.Refuses action reported ∧ arguments.MeetsWith failure reported

theorem Arguments.TurnsAway.of_refuses
    {α : Type}
    {action : Action α}
    (named : arguments.NamesPath)
    (refused : session.Refuses action failure) :
    arguments.TurnsAway session action failure :=
  ⟨failure, refused, .own named⟩

/-- What is refused behind an action that disturbs nothing is refused as a whole. -/
theorem Arguments.TurnsAway.behind
    {α β : Type}
    {first : Action α}
    {next : α → Action β}
    {value : α}
    (undisturbed : session.Undisturbed left)
    (succeeds : first session = .ok value left)
    (refused : arguments.TurnsAway left (next value) failure) :
    arguments.TurnsAway session (first >>= next) failure := by
  obtain ⟨reported, refused, meets⟩ := refused
  exact ⟨reported, undisturbed.refuses_bind succeeds refused, meets⟩

/-- A path is named where nothing is compiled. -/
theorem Arguments.namesPath_of_not_compile
    (uncompiled : arguments.compile = false) :
    arguments.NamesPath := by
  intro compiles
  rw [uncompiled] at compiles
  cases compiles

theorem keptPath?_of_nameless
    (nameless : arguments.output = some .nothing) :
    keptPath? arguments = .error .pathMissing := by
  rw [keptPath?, nameless]

theorem exists_keptPath?_of_named
    (named : arguments.output ≠ some .nothing) :
    ∃ path, keptPath? arguments = .ok path := by
  unfold keptPath?
  rcases given : arguments.output with _ | (text | _)
  · exact ⟨_, rfl⟩
  · exact ⟨_, rfl⟩
  · exact absurd given named

section

variable
  (unresolved : program.resolveLoops = .error failure)
  (cells : 1 ≤ tapeSize)

include unresolved cells

theorem interpret_of_unresolved
    (arguments : Arguments)
    (fuel : Nat)
    (session : Session) :
    session.Refuses (interpret arguments tapeSize program fuel) failure := by
  have created := RunOptions.create_of_positive cells
    (show 1 ≤ Engine.defaultBatchSteps by decide) (!arguments.noJit)
  have fails := Session.runProgram_of_unresolved unresolved
    ⟨tapeSize.toNat, !arguments.noJit, Engine.defaultBatchSteps.toNat⟩ fuel session
  refine Session.refuses_of_eq ?_
  unfold interpret
  rw [Session.bind_of_ok (Session.lift_of_ok created session), Session.bind_of_error fails]

theorem transpile_of_unresolved
    (single : arguments.HasOneMode)
    (transpiles : arguments.transpiles = true)
    (origin : Origin)
    (session : Session) :
    arguments.TurnsAway session (transpile arguments tapeSize origin program) failure := by
  let options : TranspileOptions := ⟨tapeSize.toNat, given? arguments.compiler, defaultFlags⟩
  have created := TranspileOptions.create_of_cells cells options.compiler options.flags
  have positive : 0 < options.tapeSize := by
    show 0 < tapeSize.toNat
    omega
  have undisturbed := Session.Undisturbed.refl session
  unfold transpile
  refine .behind undisturbed (Session.lift_of_ok created session) ?_
  cases intermediate : arguments.intermediate with
  | true =>
      have named := Arguments.namesPath_of_not_compile (single intermediate)
      have fails := Session.transpile_of_unresolved unresolved positive
        (some (sourcePath arguments origin)) session
      exact .of_refuses named (Session.refuses_of_eq (Session.bind_of_error fails))
  | false =>
      have compiles : arguments.compile = true := by
        simpa only [Arguments.transpiles, intermediate, Bool.false_or] using transpiles
      by_cases nameless : arguments.output = some .nothing
      · -- The path is asked for before the program is looked at.
        have missing := Session.lift_of_error (keptPath?_of_nameless nameless) session
        exact ⟨_, Session.refuses_of_eq (Session.bind_of_error missing),
          .pathless fun named => named compiles nameless⟩
      · obtain ⟨path, kept⟩ := exists_keptPath?_of_named nameless
        exact .behind undisturbed (Session.lift_of_ok kept session)
          (.of_refuses (fun _ => nameless)
            (Session.buildAndRunProgram_of_unresolved unresolved positive path session))

/-- What the arguments ask for is refused once the program is loaded. -/
theorem perform_of_unresolved
    (loads : load origin session = .ok program loaded)
    (single : arguments.HasOneMode)
    (fuel : Nat) :
    arguments.TurnsAway session (perform arguments tapeSize origin fuel) failure := by
  unfold perform
  refine .behind (undisturbed_of_load loads) loads ?_
  have refused : ∀ session, arguments.TurnsAway session
      (if arguments.transpiles then
        some <$> transpile arguments tapeSize origin program
      else interpret arguments tapeSize program fuel) failure := by
    intro session
    cases transpiles : arguments.transpiles with
    | true =>
        obtain ⟨reported, ⟨left, fails, undisturbed⟩, meets⟩ :=
          transpile_of_unresolved unresolved cells single transpiles origin session
        exact ⟨reported, ⟨left, Session.bind_of_error fails, undisturbed⟩, meets⟩
    | false =>
        have named := Arguments.namesPath_of_not_compile (Bool.or_eq_false_iff.mp transpiles).2
        exact .of_refuses named (interpret_of_unresolved unresolved cells arguments fuel session)
  cases arguments.stats with
  | false =>
      exact refused loaded
  | true =>
      refine .behind (.refl loaded) rfl ?_
      exact .behind (.push loaded rfl) rfl (refused _)

end

/--
Whether the arguments are valid and name a program, to be used on a tape of the
given size.
-/
structure Arguments.AskFor
    (arguments : Arguments)
    (origin : Origin)
    (tapeSize : Int) :
    Prop where
  sized : arguments.tapeSize = .value tapeSize
  cells : 1 ≤ tapeSize
  modes : modeError? arguments = none
  named : origin? arguments = some origin
  extension : ∀ name, origin = .file name → isProgramFile name = true

theorem Arguments.AskFor.runArguments_eq
    (asked : arguments.AskFor origin tapeSize)
    (fuel : Nat)
    (session : Session) :
    runArguments arguments fuel session = runOrigin arguments tapeSize origin fuel session := by
  have cells := Int.not_lt.mpr asked.cells
  simp only [runArguments, asked.sized, cells, ↓reduceIte, asked.modes, runNamed, asked.named]
  cases named : origin with
  | parsed text =>
      rfl
  | file name =>
      simp only [asked.extension name named, ↓reduceIte]

theorem Arguments.AskFor.run_eq_runOrigin
    {words : List String}
    (asked : arguments.AskFor origin tapeSize)
    (parsed : parseArguments words = .ok arguments)
    (fuel : Nat)
    (session : Session) :
    run words fuel session =
      ⟨(runOrigin arguments tapeSize origin fuel session).1, arguments.verbose,
        (runOrigin arguments tapeSize origin fuel session).2⟩ := by
  simp only [run, parsed, asked.runArguments_eq]

/-- A message is the last thing on the error stream, on lines of its own. -/
theorem errorText_say
    (exit : Exit)
    (verbose : Bool)
    (session : Session)
    (text : String) :
    Result.errorText ⟨exit, verbose, say session text⟩ =
      Result.errorText ⟨exit, verbose, session⟩ ++ (text ++ "\n") := by
  simp only [Result.errorText, say, Array.toList_push, List.map_append, String.join_append]
  rfl

/--
How a command line has refused a program: it disturbs nothing, and the status and the
last message are those for the fault.  Where a path is missing, that is raised instead,
before the program is looked at.
-/
structure Result.Refuses
    (result : Result)
    (arguments : Arguments)
    (session : Session)
    (fault : LoopFault) :
    Prop where
  undisturbed : session.Undisturbed result.session
  status : arguments.NamesPath → result.exit = .returned 2
  message : arguments.NamesPath → ∃ earlier, result.errorText = earlier ++ (fault.message ++ "\n")
  pathless : ¬ arguments.NamesPath → result.exit = .raised .pathMissing

theorem run_of_unresolved
    {fault : LoopFault}
    {words : List String}
    (unresolved : program.resolveLoops = .error (.unbalancedLoops fault))
    (parsed : parseArguments words = .ok arguments)
    (asked : arguments.AskFor origin tapeSize)
    (loads : load origin session = .ok program loaded)
    (fuel : Nat) :
    (run words fuel session).Refuses arguments session fault := by
  obtain ⟨failure, ⟨left, fails, undisturbed⟩, meets⟩ :=
    perform_of_unresolved unresolved asked.cells loads (hasOneMode_of_parseArguments parsed) fuel
  rw [asked.run_eq_runOrigin parsed]
  simp only [runOrigin, fails]
  cases meets with
  | own named =>
      exact ⟨undisturbed.trans (.push left rfl), fun _ => rfl,
        fun _ => ⟨_, errorText_say (.returned 2) arguments.verbose left fault.message⟩,
        fun missing => absurd named missing⟩
  | pathless missing =>
      exact ⟨undisturbed, fun named => absurd named missing, fun named => absurd named missing,
        fun _ => rfl⟩

end CommandLine

namespace Program

/--
How a program is refused with a fault by everything that can be done with it.  Where
it is at hand, the session stays the same; where it is loaded first, nothing but the
loading has happened.
-/
structure RefusedEverywhere
    (program : Program)
    (fault : LoopFault) :
    Prop where
  /-- No engine is put together unless its table is given. -/
  engine : ∀ (tapeSize : Int) (batched : Bool) (batchSteps : Int) (session : Session),
    1 ≤ tapeSize → 1 ≤ batchSteps →
    Session.createEngine program none tapeSize batched batchSteps session =
      .error (.unbalancedLoops fault) session
  run : ∀ (options : RunOptions) (fuel : Nat) (session : Session),
    Session.runProgram program options fuel session = .error (.unbalancedLoops fault) session
  runSource : ∀ (source : Source) (options : RunOptions) (fuel : Nat) (session left : Session),
    Session.loadSource source session = .ok program left →
    session.Refuses (Session.runSource source options fuel) (.unbalancedLoops fault)
  runFile : ∀ (path : File.Path) (options : RunOptions) (fuel : Nat) (session left : Session),
    Session.loadFile path defaultChunkSize session = .ok program left →
    session.Refuses (Session.runFile path options fuel) (.unbalancedLoops fault)
  /-- A generator is left as it was. -/
  generate : ∀ (generator : Generator) (session : Session),
    Session.generate generator program session =
      .ok (.error (.unbalancedLoops fault), generator) session
  writeTranslationUnit : ∀ (generator : Generator) (path : File.Path) (session : Session),
    Session.writeTranslationUnit generator program path session =
      .ok (.error (.unbalancedLoops fault), generator) session
  transpile : ∀ (options : TranspileOptions) (path : Option File.Path) (session : Session),
    0 < options.tapeSize →
    Session.transpile program options path session = .error (.unbalancedLoops fault) session
  transpileSource : ∀ (source : Source) (options : TranspileOptions) (path : Option File.Path)
    (session left : Session), 0 < options.tapeSize →
    Session.loadSource source session = .ok program left →
    session.Refuses (Session.transpileSource source options path) (.unbalancedLoops fault)
  transpileFile : ∀ (file : File.Path) (options : TranspileOptions) (path : Option File.Path)
    (session left : Session), 0 < options.tapeSize →
    Session.loadFile file defaultChunkSize session = .ok program left →
    session.Refuses (Session.transpileFile file options path) (.unbalancedLoops fault)
  buildAndRun : ∀ (options : TranspileOptions) (path : Option File.Path) (session : Session),
    0 < options.tapeSize →
    session.Refuses (Build.buildAndRunProgram program options path) (.unbalancedLoops fault)
  buildAndRunSource : ∀ (source : Source) (options : TranspileOptions) (path : Option File.Path)
    (session left : Session), 0 < options.tapeSize →
    Session.loadSource source session = .ok program left →
    session.Refuses (Build.buildAndRunSource source options path) (.unbalancedLoops fault)
  /-- The command line tells of it in each of its modes. -/
  commandLine : ∀ (words : List String) (arguments : CommandLine.Arguments)
    (origin : CommandLine.Origin) (tapeSize : Int) (fuel : Nat) (session left : Session),
    CommandLine.parseArguments words = .ok arguments →
    arguments.AskFor origin tapeSize →
    CommandLine.load origin session = .ok program left →
    (CommandLine.run words fuel session).Refuses arguments session fault

theorem refusedEverywhere_of_unresolved
    {program : Program}
    {fault : LoopFault}
    (unresolved : program.resolveLoops = .error (.unbalancedLoops fault)) :
    program.RefusedEverywhere fault where
  engine _ batched _ session cells positive :=
    Session.createEngine_of_unresolved unresolved cells positive batched session
  run options fuel session := Session.runProgram_of_unresolved unresolved options fuel session
  runSource _ options fuel _ left loads :=
    (Session.undisturbed_of_loadSource loads).refuses_bind loads
      (Session.refuses_of_eq (Session.runProgram_of_unresolved unresolved options fuel left))
  runFile _ options fuel _ left loads :=
    (Session.undisturbed_of_loadFile loads).refuses_bind loads
      (Session.refuses_of_eq (Session.runProgram_of_unresolved unresolved options fuel left))
  generate generator session := Session.generate_of_unresolved unresolved generator session
  writeTranslationUnit generator path session :=
    Session.writeTranslationUnit_of_unresolved unresolved generator path session
  transpile _ path session cells :=
    Session.transpile_of_unresolved unresolved cells path session
  transpileSource _ _ path _ left cells loads :=
    (Session.undisturbed_of_loadSource loads).refuses_bind loads
      (Session.refuses_of_eq (Session.transpile_of_unresolved unresolved cells path left))
  transpileFile _ _ path _ left cells loads :=
    (Session.undisturbed_of_loadFile loads).refuses_bind loads
      (Session.refuses_of_eq (Session.transpile_of_unresolved unresolved cells path left))
  buildAndRun _ path session cells :=
    Session.buildAndRunProgram_of_unresolved unresolved cells path session
  buildAndRunSource _ _ path _ left cells loads :=
    (Session.undisturbed_of_loadSource loads).refuses_bind loads
      (Session.buildAndRunProgram_of_unresolved unresolved cells path left)
  commandLine _ _ _ _ fuel _ _ parsed asked loads :=
    CommandLine.run_of_unresolved unresolved parsed asked loads fuel

/-- A loaded program that is not balanced is refused by everything, with one fault. -/
theorem refusedEverywhere_of_not_isBalanced
    {program : Program}
    (loaded : program.IsLoaded)
    (unbalanced : ¬ program.IsBalanced) :
    ∃ fault, program.resolveLoops = .error (.unbalancedLoops fault) ∧
      program.RefusedEverywhere fault := by
  obtain ⟨source, shown⟩ := loaded.exists_toSource
  have unresolved : ∃ imbalance address,
      program.resolveLoops = .error (program.loopFailure imbalance address) := by
    rcases program.resolveLoops_cases with
      ⟨_, _, _, succeeds⟩ | ⟨address, _, fails⟩ | ⟨_, address, _, _, fails⟩
    · exact absurd (matches_of_resolveLoops succeeds).1 unbalanced
    · exact ⟨.missingOpen, address, fails⟩
    · exact ⟨.missingClose, address, fails⟩
  obtain ⟨imbalance, address, fails⟩ := unresolved
  rw [loopFailure_eq shown] at fails
  exact ⟨_, fails, refusedEverywhere_of_unresolved fails⟩

/-- An opening bracket that is never closed; it takes its status on a host without compiler too. -/
theorem refusedEverywhere_open_loop :
    (ofOpcodes [.output, .loopOpen]).IsLoaded ∧ ¬ (ofOpcodes [.output, .loopOpen]).IsBalanced ∧
      ∃ fault, (ofOpcodes [.output, .loopOpen]).resolveLoops = .error (.unbalancedLoops fault) ∧
        (ofOpcodes [.output, .loopOpen]).RefusedEverywhere fault ∧
        ∀ session : Session, session.toolchain = .none →
          (CommandLine.run ["-c", "-p", ".["] 0 session).exit = .returned 2 := by
  have loaded : (ofOpcodes [.output, .loopOpen]).IsLoaded := .ofSource (.text ".[") rfl
  have unbalanced : ¬ (ofOpcodes [.output, .loopOpen]).IsBalanced := by
    intro balanced
    exact absurd balanced.level (by decide)
  obtain ⟨fault, unresolved, refused⟩ := refusedEverywhere_of_not_isBalanced loaded unbalanced
  refine ⟨loaded, unbalanced, fault, unresolved, refused, ?_⟩
  intro session _
  let arguments : CommandLine.Arguments :=
    { CommandLine.Arguments.initial with compile := true, parse := some (.value ".[") }
  have parsed : CommandLine.parseArguments ["-c", "-p", ".["] = .ok arguments := by
    decide +kernel
  have asked : arguments.AskFor (.parsed ".[") 30000 :=
    ⟨rfl, by decide, rfl, rfl, nofun⟩
  have result := refused.commandLine _ arguments (.parsed ".[") 30000 0 session _ parsed asked rfl
  exact result.status fun _ => nofun

end Program

end Brainfuck
