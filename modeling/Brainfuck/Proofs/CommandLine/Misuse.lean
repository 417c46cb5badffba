import Brainfuck.Proofs.CommandLine.Status

namespace Brainfuck.CommandLine

/-!
# Misuse

Switches that do not go together, or with the mode, are refused before anything else is
done, and so is a tape without cells.  A switch for a path or a compiler counts as given
only if its value is a text that is not empty.
-/

/-- Whether a command line asks for C source, be it run or not. -/
def AsksForSource (words : List String) : Prop :=
  Gives words .intermediate ∨ Gives words .compile

/-- The rules of use that a command line breaks, each with its error. -/
inductive Misuse
    (words : List String)
    (arguments : Arguments)
    (cells : Int) :
    UsageError → Prop where
  | tapeTooSmall (few : cells < 1) :
      Misuse words arguments cells (.tapeTooSmall cells)
  | output
      {text : String}
      (value : arguments.output = some (.value text))
      (nonempty : text ≠ "")
      (interprets : ¬ AsksForSource words) :
      Misuse words arguments cells .outputNeedsMode
  | compiler
      {text : String}
      (value : arguments.compiler = some (.value text))
      (nonempty : text ≠ "")
      (uncompiled : ¬ Gives words .compile) :
      Misuse words arguments cells .compilerNeedsCompile
  | stats
      (given : Gives words .stats)
      (source : AsksForSource words) :
      Misuse words arguments cells .statsWhileTranspiling
  | noJit
      (given : Gives words .noJit)
      (source : AsksForSource words) :
      Misuse words arguments cells .noJitWhileTranspiling

/-- Whether no path and no compiler is given with an empty value, or with none. -/
def Arguments.HasValues (arguments : Arguments) : Prop :=
  ∀ value, arguments.output = some value ∨ arguments.compiler = some value →
    ∃ text, value = .value text ∧ text ≠ ""

/-- How a command line that is parsed is checked. -/
structure ChecksUse
    (words : List String)
    (arguments : Arguments) :
    Prop where
  /-- It is refused exactly if it breaks a rule. -/
  refused_iff : ∀ cells, arguments.tapeSize = .value cells →
    ∀ fuel session,
      (run words fuel session).exit = .left 2 ↔ ∃ error, Misuse words arguments cells error
  /-- As long as no value is empty, the rules are about the switches that are given. -/
  presence : ∀ cells, arguments.tapeSize = .value cells → arguments.HasValues →
    ∀ fuel session,
      (run words fuel session).exit = .left 2 ↔
        cells < 1 ∨
          (Gives words .output ∧ ¬ AsksForSource words) ∨
          (Gives words .compiler ∧ ¬ Gives words .compile) ∨
          ((Gives words .stats ∨ Gives words .noJit) ∧ AsksForSource words)
  /-- What is refused does nothing but say so, whatever the session holds. -/
  untouched : ∀ cells, arguments.tapeSize = .value cells →
    ∀ broken, Misuse words arguments cells broken →
      ∃ error, Misuse words arguments cells error ∧
        ∀ fuel session,
          run words fuel session = ⟨.left 2, arguments.verbose, say session error.report⟩
  /-- A tape size without a number cannot be checked, and nothing is done either. -/
  numberless : arguments.tapeSize = .nothing →
    ∀ fuel session,
      run words fuel session = ⟨.raised .numberMissing, arguments.verbose, session⟩

variable
  {words : List String}
  {arguments : Arguments}
  {cells : Int}
  {error : UsageError}

/-! Only the checks end a command line early. -/

theorem exit_runOrigin_ne_left
    (arguments : Arguments)
    (tapeSize : Int)
    (origin : Origin)
    (fuel : Nat)
    (session : Session)
    (status : Int) :
    (runOrigin arguments tapeSize origin fuel session).1 ≠ .left status := by
  unfold runOrigin
  split
  · exact Exit.noConfusion
  · exact Exit.noConfusion
  · split <;> exact Exit.noConfusion

theorem exit_runNamed_ne_left
    (arguments : Arguments)
    (tapeSize : Int)
    (fuel : Nat)
    (session : Session)
    (status : Int) :
    (runNamed arguments tapeSize fuel session).1 ≠ .left status := by
  unfold runNamed
  split
  · exact Exit.noConfusion
  · exact exit_runOrigin_ne_left arguments tapeSize _ fuel session status
  · split
    · exact exit_runOrigin_ne_left arguments tapeSize _ fuel session status
    · exact Exit.noConfusion

theorem run_of_parsed
    (parsed : parseArguments words = .ok arguments)
    (fuel : Nat)
    (session : Session) :
    run words fuel session =
      ⟨(runArguments arguments fuel session).1, arguments.verbose,
        (runArguments arguments fuel session).2⟩ := by
  simp only [run, parsed]

section

variable (parsed : parseArguments words = .ok arguments)

include parsed

theorem transpiles_iff : arguments.transpiles = true ↔ AsksForSource words := by
  have intermediate : arguments.intermediate = true ↔ Gives words .intermediate :=
    records_iff_gives parsed .intermediate nofun
  have compile : arguments.compile = true ↔ Gives words .compile :=
    records_iff_gives parsed .compile nofun
  rw [Arguments.transpiles, Bool.or_eq_true, intermediate, compile, AsksForSource]

/-! What is tested is that a rule is broken. -/

theorem outputNeedsMode_iff :
    ((given? arguments.output).isSome && !arguments.transpiles) = true ↔
      (∃ text, arguments.output = some (.value text) ∧ text ≠ "") ∧ ¬ AsksForSource words := by
  rw [Bool.and_eq_true, Option.isSome_iff_exists, Bool.not_eq_true', Bool.eq_false_iff, ne_eq,
    transpiles_iff parsed]
  simp only [given?_eq_some_iff]

theorem compilerNeedsCompile_iff :
    ((given? arguments.compiler).isSome && !arguments.compile) = true ↔
      (∃ text, arguments.compiler = some (.value text) ∧ text ≠ "") ∧
        ¬ Gives words .compile := by
  have compile : arguments.compile = true ↔ Gives words .compile :=
    records_iff_gives parsed .compile nofun
  rw [Bool.and_eq_true, Option.isSome_iff_exists, Bool.not_eq_true', Bool.eq_false_iff, ne_eq,
    compile]
  simp only [given?_eq_some_iff]

theorem statsWhileTranspiling_iff :
    (arguments.transpiles && arguments.stats) = true ↔
      AsksForSource words ∧ Gives words .stats := by
  have stats : arguments.stats = true ↔ Gives words .stats :=
    records_iff_gives parsed .stats nofun
  rw [Bool.and_eq_true, transpiles_iff parsed, stats]

theorem noJitWhileTranspiling_iff :
    (arguments.transpiles && arguments.noJit) = true ↔
      AsksForSource words ∧ Gives words .noJit := by
  have noJit : arguments.noJit = true ↔ Gives words .noJit :=
    records_iff_gives parsed .noJit nofun
  rw [Bool.and_eq_true, transpiles_iff parsed, noJit]

/-- The error in the modes is that of a rule which is broken. -/
theorem misuse_of_modeError?
    (found : modeError? arguments = some error) :
    Misuse words arguments cells error := by
  unfold modeError? at found
  split_ifs at found with output compiler stats noJit
  all_goals cases found
  · obtain ⟨⟨text, value, nonempty⟩, interprets⟩ := (outputNeedsMode_iff parsed).mp output
    exact .output value nonempty interprets
  · obtain ⟨⟨text, value, nonempty⟩, uncompiled⟩ := (compilerNeedsCompile_iff parsed).mp compiler
    exact .compiler value nonempty uncompiled
  · obtain ⟨source, given⟩ := (statsWhileTranspiling_iff parsed).mp stats
    exact .stats given source
  · obtain ⟨source, given⟩ := (noJitWhileTranspiling_iff parsed).mp noJit
    exact .noJit given source

/-- Where no error is found, no rule is broken. -/
theorem not_misuse_of_modeError?
    (sound : modeError? arguments = none)
    (enough : ¬ cells < 1) :
    ¬ Misuse words arguments cells error := by
  unfold modeError? at sound
  split_ifs at sound with output compiler stats noJit
  intro broken
  cases broken with
  | tapeTooSmall few =>
      exact enough few
  | output value nonempty interprets =>
      exact output ((outputNeedsMode_iff parsed).mpr ⟨⟨_, value, nonempty⟩, interprets⟩)
  | compiler value nonempty uncompiled =>
      exact compiler ((compilerNeedsCompile_iff parsed).mpr ⟨⟨_, value, nonempty⟩, uncompiled⟩)
  | stats given source =>
      exact stats ((statsWhileTranspiling_iff parsed).mpr ⟨source, given⟩)
  | noJit given source =>
      exact noJit ((noJitWhileTranspiling_iff parsed).mpr ⟨source, given⟩)

/-- A command line with a number for its tape size is refused, or no rule is broken. -/
theorem refused_or_not_misuse
    (sized : arguments.tapeSize = .value cells) :
    (∃ error, Misuse words arguments cells error ∧
      ∀ fuel session,
        run words fuel session = ⟨.left 2, arguments.verbose, say session error.report⟩) ∨
      ((∀ error, ¬ Misuse words arguments cells error) ∧
        ∀ fuel session, (run words fuel session).exit ≠ .left 2) := by
  by_cases few : cells < 1
  · refine .inl ⟨_, .tapeTooSmall few, fun fuel session => ?_⟩
    simp only [run_of_parsed parsed, runArguments, sized, few, ↓reduceIte, refuse]
  · cases found : modeError? arguments with
    | some error =>
        refine .inl ⟨error, misuse_of_modeError? parsed found, fun fuel session => ?_⟩
        simp only [run_of_parsed parsed, runArguments, sized, few, ↓reduceIte, found, refuse]
    | none =>
        refine .inr ⟨fun error => not_misuse_of_modeError? parsed found few, ?_⟩
        intro fuel session
        simp only [run_of_parsed parsed, runArguments, sized, few, ↓reduceIte, found]
        exact exit_runNamed_ne_left arguments cells fuel session 2

theorem exit_eq_left_iff
    (sized : arguments.tapeSize = .value cells)
    (fuel : Nat)
    (session : Session) :
    (run words fuel session).exit = .left 2 ↔ ∃ error, Misuse words arguments cells error := by
  rcases refused_or_not_misuse parsed sized with ⟨error, broken, refused⟩ | ⟨sound, ends⟩
  · exact iff_of_true (by rw [refused]) ⟨error, broken⟩
  · exact iff_of_false (ends fuel session) (not_exists.mpr sound)

/-- Where no value is empty, the broken rules are about the switches that are given. -/
theorem exists_misuse_iff
    (valued : arguments.HasValues) :
    (∃ error, Misuse words arguments cells error) ↔
      cells < 1 ∨
        (Gives words .output ∧ ¬ AsksForSource words) ∨
        (Gives words .compiler ∧ ¬ Gives words .compile) ∨
        ((Gives words .stats ∨ Gives words .noJit) ∧ AsksForSource words) := by
  have output : arguments.output.isSome = true ↔ Gives words .output :=
    records_iff_gives parsed .output nofun
  have compiler : arguments.compiler.isSome = true ↔ Gives words .compiler :=
    records_iff_gives parsed .compiler nofun
  constructor
  · rintro ⟨_, broken⟩
    cases broken with
    | tapeTooSmall few =>
        exact .inl few
    | output value _ interprets =>
        exact .inr (.inl ⟨output.mp (by rw [value, Option.isSome_some]), interprets⟩)
    | compiler value _ uncompiled =>
        exact .inr (.inr (.inl ⟨compiler.mp (by rw [value, Option.isSome_some]), uncompiled⟩))
    | stats given asked =>
        exact .inr (.inr (.inr ⟨.inl given, asked⟩))
    | noJit given asked =>
        exact .inr (.inr (.inr ⟨.inr given, asked⟩))
  · rintro (few | ⟨given, interprets⟩ | ⟨given, uncompiled⟩ | ⟨given | given, asked⟩)
    · exact ⟨_, .tapeTooSmall few⟩
    · obtain ⟨value, recorded⟩ := Option.isSome_iff_exists.mp (output.mpr given)
      obtain ⟨text, rfl, nonempty⟩ := valued value (.inl recorded)
      exact ⟨_, .output recorded nonempty interprets⟩
    · obtain ⟨value, recorded⟩ := Option.isSome_iff_exists.mp (compiler.mpr given)
      obtain ⟨text, rfl, nonempty⟩ := valued value (.inr recorded)
      exact ⟨_, .compiler recorded nonempty uncompiled⟩
    · exact ⟨_, .stats given asked⟩
    · exact ⟨_, .noJit given asked⟩

end

/-- A command line that is parsed is refused for the rules that it breaks, at once. -/
theorem checksUse_of_parsed
    (parsed : parseArguments words = .ok arguments) :
    ChecksUse words arguments where
  refused_iff _ sized fuel session := exit_eq_left_iff parsed sized fuel session
  presence _ sized valued fuel session :=
    (exit_eq_left_iff parsed sized fuel session).trans (exists_misuse_iff parsed valued)
  untouched _ sized broken misused := by
    rcases refused_or_not_misuse parsed sized with refused | ⟨sound, _⟩
    · exact refused
    · exact absurd misused (sound broken)
  numberless missing fuel session := by
    simp only [run_of_parsed parsed, runArguments, missing]

/-- Statistics for a program that is to be compiled, from a file that is no program file. -/
theorem checksUse_stats_while_compiling :
    ∃ arguments,
      parseArguments ["-c", "--stats", "-o", "", "absent.txt"] = .ok arguments ∧
        ChecksUse ["-c", "--stats", "-o", "", "absent.txt"] arguments ∧
        run ["-c", "--stats", "-o", "", "absent.txt"] 0 bareSession =
          ⟨.left 2, false, say bareSession UsageError.statsWhileTranspiling.report⟩ := by
  let arguments : Arguments :=
    { Arguments.initial with
      file := some "absent.txt"
      compile := true
      output := some (.value "")
      stats := true }
  have parsed : parseArguments ["-c", "--stats", "-o", "", "absent.txt"] = .ok arguments := by
    decide +kernel
  exact ⟨arguments, parsed, checksUse_of_parsed parsed, run_of_parsed parsed 0 bareSession⟩

/--
A path that is empty goes through although nothing is turned into C, and a tape size
without a number ends the command line otherwise.
-/
theorem run_accepts_empty_output :
    (∃ arguments,
      parseArguments ["-n", "1", "-o", "", "-p", "+."] = .ok arguments ∧
        Gives ["-n", "1", "-o", "", "-p", "+."] .output ∧
        ¬ AsksForSource ["-n", "1", "-o", "", "-p", "+."] ∧
        (run ["-n", "1", "-o", "", "-p", "+."] 2 bareSession).exit = .returned 0) ∧
      ∃ arguments,
        parseArguments ["-n--", "-o", "x.c", "-p", "+."] = .ok arguments ∧
          Gives ["-n--", "-o", "x.c", "-p", "+."] .output ∧
          ¬ AsksForSource ["-n--", "-o", "x.c", "-p", "+."] ∧
          (run ["-n--", "-o", "x.c", "-p", "+."] 2 bareSession).exit =
            .raised .numberMissing := by
  have emptyPath : parseArguments ["-n", "1", "-o", "", "-p", "+."] =
      .ok { Arguments.initial with
        parse := some (.value "+.")
        tapeSize := .value 1
        output := some (.value "") } := by
    decide +kernel
  have noNumber : parseArguments ["-n--", "-o", "x.c", "-p", "+."] =
      .ok { Arguments.initial with
        parse := some (.value "+.")
        tapeSize := .nothing
        output := some (.value "x.c") } := by
    decide +kernel
  refine ⟨⟨_, emptyPath, ?_, ?_, by decide +kernel⟩, _, noNumber, ?_, ?_, by decide +kernel⟩
  · exact (records_iff_gives emptyPath .output nofun).mp rfl
  · rw [← transpiles_iff emptyPath]
    decide
  · exact (records_iff_gives noNumber .output nofun).mp rfl
  · rw [← transpiles_iff noNumber]
    decide

end Brainfuck.CommandLine
