import Brainfuck.Proofs.CommandLine.Misuse
import Brainfuck.Proofs.CommandLine.Roles

namespace Brainfuck.CommandLine

open Session (leftBy)

/-!
# Program text on the command line

A program that is given in a word of its own is interpreted as the library would run it,
as long as the word passes as a value.  Any other text is refused, and among programs
these are the ones that begin with a decrement and go on.
-/

/-- What a command line asks for that gives the text of a program and nothing else. -/
def argumentsFor (text : String) : Arguments :=
  { Arguments.initial with parse := some (.value text) }

/-- What becomes of a text that is given as a program. -/
structure TakesText (text : String) : Prop where
  /--
  A text that passes as a value is interpreted as the library interprets it on memory, in
  any session on the same host.
  -/
  interprets : PassesAsValue text →
    ∀ session input, Streams session input →
      ∀ (other : Session) (batched : Bool),
        ComparesWithLibrary (fun fuel => run ["-p", text] fuel session)
          (fun fuel =>
            Session.runSource (.text text) (optionsFor Engine.defaultTapeSize batched) fuel
              { other with host := session.host, channel := .fromMemory input .empty })
          session.channel.output.bytes
  /-- Any other text is refused for itself or for the missing value, and nothing is done. -/
  refuses : ¬ PassesAsValue text →
    ∃ error : UsageError,
      (error = .valueExpected .parse ∨ ∃ candidates, error = .ambiguous text candidates) ∧
        ∀ fuel session,
          run ["-p", text] fuel session = ⟨.left 2, false, say session error.report⟩
  /-- The command line is refused for no other reason. -/
  refused_iff : ∀ fuel session,
    (run ["-p", text] fuel session).exit = .left 2 ↔ ¬ PassesAsValue text
  /-- Of the texts of commands only, those pass that do not begin with a dash, and the dash. -/
  commands : (∀ character ∈ text.toList, ∃ opcode : Opcode, opcode.symbol = character) →
    (PassesAsValue text ↔ text.toList.head? ≠ some '-' ∨ text = "-")

variable {text : String}

/-! How the command line is parsed. -/

theorem not_passesAsValue_terminator : ¬ PassesAsValue "--" := by
  rw [← roleOf_eq_operand_iff]
  decide +kernel

theorem roleOf_parse : roleOf "-p" = .ok (.switch .parse "-p" none) := by
  decide +kernel

theorem classify_of_role
    {role : Role}
    (plain : text ≠ "--")
    (taken : roleOf text = .ok role) :
    classify ["-p", text] = .ok [⟨"-p", .switch .parse "-p" none⟩, ⟨text, role⟩] := by
  simp only [classify, roleOf_parse, taken, plain, ↓reduceIte]
  rfl

theorem parseArguments_of_passesAsValue
    (passes : PassesAsValue text) :
    parseArguments ["-p", text] = .ok (argumentsFor text) := by
  have plain : text ≠ "--" := by
    rintro rfl
    exact not_passesAsValue_terminator passes
  have value : Draft.given text = .value text := by
    rw [Draft.given, if_neg plain]
  have taken : Draft.takeWords [⟨"-p", .switch .parse "-p" none⟩, ⟨text, .operand⟩] .initial =
      .ok { Draft.initial with arguments := argumentsFor text } := by
    have takes : Draft.initial.pass.takeValue .parse text =
        .ok { Draft.initial with arguments := argumentsFor text } := by
      rw [Draft.takeValue, value]
      rfl
    unfold Draft.takeWords
    change Except.bind (Draft.initial.pass.takeValue .parse text) (Draft.takeWords []) = _
    rw [takes]
    change Draft.takeWords [] _ = _
    rw [Draft.takeWords]
  have operand := (roleOf_eq_operand_iff text).mpr passes
  rw [parseArguments_of_classify (classify_of_role plain operand), taken]
  rfl

/-- A word behind the switch that is no operand leaves the switch without its value. -/
theorem parseArguments_of_role
    {role : Role}
    (plain : text ≠ "--")
    (taken : roleOf text = .ok role)
    (other : role ≠ .operand) :
    parseArguments ["-p", text] = .error (.usage (.valueExpected .parse)) := by
  have missing : Draft.takeWords [⟨"-p", .switch .parse "-p" none⟩, ⟨text, role⟩] .initial =
      .error (.usage (.valueExpected .parse)) := by
    unfold Draft.takeWords
    cases role with
    | operand => exact absurd rfl other
    | terminator | switch | unknown => rfl
  rw [parseArguments_of_classify (classify_of_role plain taken), missing]
  rfl

theorem roleOf_eq_error
    {error : UsageError}
    (fails : roleOf text = .error error) :
    ∃ candidates, error = .ambiguous text candidates := by
  have other (failsSo : roleOfOther text = .error error) :
      ∃ candidates, error = .ambiguous text candidates := by
    unfold roleOfOther at failsSo
    split at failsSo
    · cases failsSo
    · split at failsSo <;> cases failsSo
    · cases failsSo
      exact ⟨_, rfl⟩
  unfold roleOf at fails
  split at fails
  · cases fails
  · split at fails
    · cases fails
    · split at fails
      · cases fails
      · split at fails
        · exact other fails
        · split at fails
          · cases fails
          · exact other fails

theorem parseArguments_of_not_passesAsValue
    (fails : ¬ PassesAsValue text) :
    ∃ error : UsageError,
      (error = .valueExpected .parse ∨ ∃ candidates, error = .ambiguous text candidates) ∧
        parseArguments ["-p", text] = .error (.usage error) := by
  by_cases terminator : text = "--"
  · subst terminator
    exact ⟨_, .inl rfl, by decide +kernel⟩
  · cases taken : roleOf text with
    | ok role =>
        have other : role ≠ .operand := by
          rintro rfl
          exact fails ((roleOf_eq_operand_iff text).mp taken)
        exact ⟨_, .inl rfl, parseArguments_of_role terminator taken other⟩
    | error error =>
        refine ⟨error, .inr (roleOf_eq_error taken), ?_⟩
        unfold parseArguments
        simp only [classify, roleOf_parse, taken, terminator, ↓reduceIte]
        rfl

/-! What becomes of the text. -/

theorem askFor_argumentsFor (text : String) :
    (argumentsFor text).AskFor (.parsed text) Engine.defaultTapeSize :=
  ⟨rfl, by decide, rfl, rfl, nofun⟩

theorem run_of_not_passesAsValue
    (fails : ¬ PassesAsValue text) :
    ∃ error : UsageError,
      (error = .valueExpected .parse ∨ ∃ candidates, error = .ambiguous text candidates) ∧
        ∀ fuel session,
          run ["-p", text] fuel session = ⟨.left 2, false, say session error.report⟩ := by
  obtain ⟨error, cause, parsed⟩ := parseArguments_of_not_passesAsValue fails
  refine ⟨error, cause, fun fuel session => ?_⟩
  simp only [run, parsed, refuse]

theorem exit_run_ne_left
    (passes : PassesAsValue text)
    (fuel : Nat)
    (session : Session) :
    (run ["-p", text] fuel session).exit ≠ .left 2 := by
  rw [(askFor_argumentsFor text).run_eq_runOrigin (parseArguments_of_passesAsValue passes)]
  exact exit_runOrigin_ne_left _ _ _ fuel session 2

theorem isDecimalDigit_symbol (opcode : Opcode) : Text.isDecimalDigit opcode.symbol = false := by
  cases opcode <;> decide

theorem symbol_ne_space (opcode : Opcode) : opcode.symbol ≠ ' ' := by
  cases opcode <;> decide

/-- A text of commands only has neither a number nor a space in it. -/
theorem passesAsValue_commands_iff
    (commands : ∀ character ∈ text.toList, ∃ opcode : Opcode, opcode.symbol = character) :
    PassesAsValue text ↔ text.toList.head? ≠ some '-' ∨ text = "-" := by
  constructor
  · intro passes
    cases passes with
    | plain head =>
        exact .inl head
    | dash alone =>
        exact .inr alone
    | number negative =>
        obtain ⟨digit, member, decimal⟩ := negative.exists_digit
        obtain ⟨opcode, rfl⟩ := commands digit member
        rw [isDecimalDigit_symbol] at decimal
        cases decimal
    | spaced space =>
        obtain ⟨opcode, same⟩ := commands ' ' space
        exact absurd same (symbol_ne_space opcode)
  · rintro (head | alone)
    · exact .plain head
    · exact .dash alone

/--
A text that is given as a program is interpreted as the library interprets it, unless it
begins with a dash and does not pass as a value; then it is refused.
-/
theorem takesText (text : String) : TakesText text where
  interprets passes session input streams other _ :=
    comparesWithLibrary_of_endsAfter (askFor_argumentsFor text).cells
      (run_endsAfter (parseArguments_of_passesAsValue passes) (askFor_argumentsFor text) rfl
        (.parsed text))
      streams.serves rfl (serves_fromMemory other session.host input)
  refuses fails := run_of_not_passesAsValue fails
  refused_iff fuel session := by
    constructor
    · exact fun refused passes => exit_run_ne_left passes fuel session refused
    · intro fails
      obtain ⟨error, _, refused⟩ := run_of_not_passesAsValue fails
      rw [refused]
  commands := passesAsValue_commands_iff

/-- A command line that is refused does not compare with a run of the library. -/
theorem not_comparesWithLibrary_of_left
    {main : Nat → Result}
    {library : Nat → EStateM.Result Failure Session (Option Machine)}
    {before : Array UInt8}
    {status : Int}
    (refused : ∀ fuel, (main fuel).exit = .left status) :
    ¬ ComparesWithLibrary main library before := by
  intro compares
  rcases compares.ends 0 with unfinished | ⟨more, alike⟩
  · rw [refused] at unfinished
    cases unfinished
  · generalize library more = result at alike
    cases alike with
    | returned ended | reported _ ended | escaped _ ended =>
        rw [refused] at ended
        cases ended

/-- A decrement with a command behind it is refused, although the library runs it. -/
theorem run_refuses_decrement_output :
    (∀ fuel, (run ["-p", "-."] fuel bareSession).exit = .left 2) ∧
      (leftBy (Session.runSource (.text "-.") (optionsFor Engine.defaultTapeSize true) 2
        { bareSession with channel := .fromMemory [] .empty })).channel.output.bytes = #[255] ∧
      ¬ ComparesWithLibrary (fun fuel => run ["-p", "-."] fuel bareSession)
        (fun fuel => Session.runSource (.text "-.") (optionsFor Engine.defaultTapeSize true) fuel
          { bareSession with channel := .fromMemory [] .empty })
        bareSession.channel.output.bytes := by
  have refused (fuel : Nat) : (run ["-p", "-."] fuel bareSession).exit = .left 2 := by
    have parsed : parseArguments ["-p", "-."] = .error (.usage (.valueExpected .parse)) := by
      decide +kernel
    simp only [run, parsed, refuse]
  exact ⟨refused, by decide +kernel, not_comparesWithLibrary_of_left refused⟩

end Brainfuck.CommandLine
