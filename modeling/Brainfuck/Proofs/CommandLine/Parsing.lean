import Brainfuck.CommandLine
import Brainfuck.Proofs.Numeral
import Brainfuck.Proofs.Outcome
import Mathlib.Data.List.Basic

namespace Brainfuck.CommandLine

/-!
# Parsing

A command line that is parsed to the end has each of its words taken in one of a few
ways.  The arguments have a switch on record exactly if one of the words gives it; what
is on record of the tape size is a number, whether it was given or not.
-/

/-- Whether a word gives a switch, alone or joined with others. -/
def Word.Gives
    (word : Word)
    (switch : Switch) :
    Prop :=
  ∃ first name attached joined,
    word.role = .switch first name attached ∧
      Joined.ofSwitch first name attached = .ok joined ∧
      switch ∈ joined.flags ++ [joined.last]

/-- Whether a command line gives a switch, with any value or none. -/
def Gives
    (words : List String)
    (switch : Switch) :
    Prop :=
  ∃ classified, classify words = .ok classified ∧ ∃ word ∈ classified, word.Gives switch

/-- Whether the arguments have a switch on record. -/
def Arguments.records
    (arguments : Arguments) :
    Switch → Bool
  | .parse => arguments.parse.isSome
  | .intermediate => arguments.intermediate
  | .compile => arguments.compile
  | .output => arguments.output.isSome
  | .compiler => arguments.compiler.isSome
  | .noJit => arguments.noJit
  | .stats => arguments.stats
  | .verbose => arguments.verbose
  | .help | .tapeSize => false

/-! The switches of one word. -/

theorem Word.gives_iff
    {text name : String}
    {first : Switch}
    {attached : Option String}
    {joined : Joined}
    (spelled : Joined.ofSwitch first name attached = .ok joined)
    (switch : Switch) :
    (Word.mk text (.switch first name attached)).Gives switch ↔
      switch ∈ joined.flags ++ [joined.last] := by
  constructor
  · rintro ⟨_, _, _, other, role, otherSpelled, member⟩
    cases role
    rw [spelled] at otherSpelled
    cases otherSpelled
    exact member
  · exact fun member => ⟨first, name, attached, joined, rfl, spelled, member⟩

/-- A word that is no switch gives none. -/
theorem Word.not_gives
    {word : Word}
    (foreign : word.role.name? = none)
    (switch : Switch) :
    ¬ word.Gives switch := by
  rintro ⟨_, _, _, _, role, _⟩
  rw [role] at foreign
  cases foreign

namespace Joined

theorem takesValue_ofLetters
    {flags : List Switch}
    {switch : Switch}
    {letters : List Char}
    {joined : Joined}
    (plain : ∀ flag ∈ flags, flag.takesValue = false)
    (taken : ofLetters flags switch letters = .ok joined) :
    ∀ flag ∈ joined.flags, flag.takesValue = false := by
  induction letters generalizing flags switch with
  | nil =>
      cases taken
      exact plain
  | cons letter rest inductionHypothesis =>
      rw [ofLetters] at taken
      split at taken
      · cases taken
        exact plain
      · next alone =>
          split at taken
          · refine inductionHypothesis ?_ taken
            intro flag member
            rcases List.mem_append.mp member with earlier | here
            · exact plain flag earlier
            · rw [List.mem_singleton.mp here]
              exact Bool.eq_false_iff.mpr alone
          · cases taken

/-- Only the last switch of a word takes a value. -/
theorem takesValue_ofSwitch
    {switch : Switch}
    {name : String}
    {attached : Option String}
    {joined : Joined}
    (taken : ofSwitch switch name attached = .ok joined) :
    ∀ flag ∈ joined.flags, flag.takesValue = false := by
  unfold ofSwitch at taken
  split at taken
  · cases taken
    exact List.forall_mem_nil _
  · split at taken
    · cases taken
      exact List.forall_mem_nil _
    · split at taken
      · exact takesValue_ofLetters (List.forall_mem_nil _) taken
      · cases taken

end Joined

namespace Draft

variable
  {draft flagged next last : Draft}
  {flag switch : Switch}
  {words : List Word}

/-- How the words of a command line are taken, from the first one to the last. -/
inductive Takes : List Word → Draft → Draft → Prop where
  | done (draft : Draft) :
      Takes [] draft draft
  | operand
      {text : String}
      {rest : List Word}
      {draft last : Draft}
      (later : Takes rest (draft.takeOperand text) last) :
      Takes (⟨text, .operand⟩ :: rest) draft last
  | terminator
      {text : String}
      {rest : List Word}
      {draft last : Draft}
      (later : Takes rest (draft.takeTerminator text) last) :
      Takes (⟨text, .terminator⟩ :: rest) draft last
  | unknown
      {text : String}
      {rest : List Word}
      {draft last : Draft}
      (later : Takes rest (draft.leave text) last) :
      Takes (⟨text, .unknown⟩ :: rest) draft last
  | flags
      {text name : String}
      {first : Switch}
      {attached : Option String}
      {joined : Joined}
      {rest : List Word}
      {draft next last : Draft}
      (spelled : Joined.ofSwitch first name attached = .ok joined)
      (plain : joined.last.takesValue = false)
      (flags : draft.pass.takeFlags (joined.flags ++ [joined.last]) = .ok next)
      (later : Takes rest next last) :
      Takes (⟨text, .switch first name attached⟩ :: rest) draft last
  | attached
      {text name value : String}
      {first : Switch}
      {attached : Option String}
      {joined : Joined}
      {rest : List Word}
      {draft flagged next last : Draft}
      (spelled : Joined.ofSwitch first name attached = .ok joined)
      (valued : joined.last.takesValue = true)
      (flags : draft.pass.takeFlags joined.flags = .ok flagged)
      (takes : flagged.takeValue joined.last value = .ok next)
      (later : Takes rest next last) :
      Takes (⟨text, .switch first name attached⟩ :: rest) draft last
  | behind
      {text name value : String}
      {first : Switch}
      {attached : Option String}
      {joined : Joined}
      {rest : List Word}
      {draft flagged next last : Draft}
      (spelled : Joined.ofSwitch first name attached = .ok joined)
      (valued : joined.last.takesValue = true)
      (flags : draft.pass.takeFlags joined.flags = .ok flagged)
      (takes : flagged.takeValue joined.last value = .ok next)
      (later : Takes rest next last) :
      Takes (⟨text, .switch first name attached⟩ :: ⟨value, .operand⟩ :: rest) draft last

theorem takes_of_takeWords
    {draft last : Draft}
    (words : List Word)
    (taken : takeWords words draft = .ok last) :
    Takes words draft last := by
  match words with
  | [] =>
      cases taken
      exact .done draft
  | ⟨text, .operand⟩ :: rest =>
      exact .operand (takes_of_takeWords rest taken)
  | ⟨text, .terminator⟩ :: rest =>
      exact .terminator (takes_of_takeWords rest taken)
  | ⟨text, .unknown⟩ :: rest =>
      exact .unknown (takes_of_takeWords rest taken)
  | ⟨_, .switch first name attached⟩ :: rest =>
      unfold takeWords at taken
      obtain ⟨joined, spelled, taken⟩ := Outcome.bind_eq_ok taken
      split at taken
      · next valued _ =>
          obtain ⟨flagged, flags, taken⟩ := Outcome.bind_eq_ok taken
          obtain ⟨next, value, taken⟩ := Outcome.bind_eq_ok taken
          exact .attached spelled valued flags value (takes_of_takeWords rest taken)
      · next valued _ =>
          split at taken
          · obtain ⟨flagged, flags, taken⟩ := Outcome.bind_eq_ok taken
            obtain ⟨next, value, taken⟩ := Outcome.bind_eq_ok taken
            exact .behind spelled valued flags value (takes_of_takeWords _ taken)
          · cases taken
      · next plain =>
          obtain ⟨next, flags, taken⟩ := Outcome.bind_eq_ok taken
          exact .flags spelled plain flags (takes_of_takeWords rest taken)

/-! What is put on record. -/

theorem records_takeFlag
    (plain : flag.takesValue = false)
    (taken : draft.takeFlag flag = .ok next)
    (switch : Switch) :
    next.arguments.records switch = true ↔
      draft.arguments.records switch = true ∨ switch = flag := by
  cases flag with
  | parse | tapeSize | output | compiler =>
      cases plain
  | help =>
      cases taken
  | intermediate | compile =>
      simp only [takeFlag] at taken
      split at taken <;> cases taken
      cases switch <;> simp [Arguments.records]
  | noJit | stats | verbose =>
      cases taken
      cases switch <;> simp [Arguments.records]

theorem records_takeFlags
    (flags : List Switch)
    (plain : ∀ flag ∈ flags, flag.takesValue = false)
    (taken : draft.takeFlags flags = .ok next)
    (switch : Switch) :
    next.arguments.records switch = true ↔
      draft.arguments.records switch = true ∨ switch ∈ flags := by
  induction flags generalizing draft with
  | nil =>
      cases taken
      simp
  | cons flag rest inductionHypothesis =>
      unfold takeFlags at taken
      rw [List.foldlM_cons] at taken
      obtain ⟨flagged, first, others⟩ := Outcome.bind_eq_ok taken
      rw [inductionHypothesis (fun later member => plain later (List.mem_cons_of_mem flag member))
        others, records_takeFlag (plain flag List.mem_cons_self) first, List.mem_cons, or_assoc]

theorem records_takeValue
    {text : String}
    (valued : flag.takesValue = true)
    (taken : draft.takeValue flag text = .ok next)
    (other : switch ≠ .tapeSize) :
    next.arguments.records switch = true ↔
      draft.arguments.records switch = true ∨ switch = flag := by
  cases flag with
  | help | intermediate | compile | noJit | stats | verbose =>
      cases valued
  | parse | output | compiler =>
      cases taken
      cases switch <;> simp [Arguments.records]
  | tapeSize =>
      -- The number that was given takes the place of another one, which leaves no trace.
      have same : next.arguments.records switch = draft.arguments.records switch := by
        cases value : given text with
        | nothing =>
            simp only [takeValue, value] at taken
            cases taken
            rfl
        | value numeral =>
            simp only [takeValue, value] at taken
            split at taken <;> cases taken
            rfl
      rw [same]
      exact (or_iff_left other).symm

theorem records_takeOperand
    (draft : Draft)
    (text : String)
    (switch : Switch) :
    (draft.takeOperand text).arguments.records switch = draft.arguments.records switch := by
  unfold takeOperand
  split
  · rfl
  · cases switch <;> rfl

theorem records_takeTerminator
    (draft : Draft)
    (text : String)
    (switch : Switch) :
    (draft.takeTerminator text).arguments.records switch = draft.arguments.records switch := by
  unfold takeTerminator
  split <;> rfl

/-- The words that are taken put on record what they give. -/
theorem Takes.records_iff
    (takes : Takes words draft last)
    (other : switch ≠ .tapeSize) :
    last.arguments.records switch = true ↔
      draft.arguments.records switch = true ∨ ∃ word ∈ words, word.Gives switch := by
  induction takes with
  | done draft =>
      simp
  | operand _ inductionHypothesis =>
      rw [inductionHypothesis, records_takeOperand, List.exists_mem_cons_iff,
        or_iff_right (Word.not_gives rfl switch)]
  | terminator _ inductionHypothesis =>
      rw [inductionHypothesis, records_takeTerminator, List.exists_mem_cons_iff,
        or_iff_right (Word.not_gives rfl switch)]
  | unknown _ inductionHypothesis =>
      rw [inductionHypothesis, List.exists_mem_cons_iff,
        or_iff_right (Word.not_gives rfl switch)]
      rfl
  | flags spelled plain flags _ inductionHypothesis =>
      have flagsPlain : ∀ flag ∈ _ ++ [_], Switch.takesValue flag = false :=
        List.forall_mem_append.mpr
          ⟨Joined.takesValue_ofSwitch spelled, List.forall_mem_singleton.mpr plain⟩
      rw [inductionHypothesis, records_takeFlags _ flagsPlain flags, List.exists_mem_cons_iff,
        Word.gives_iff spelled, or_assoc]
      rfl
  | attached spelled valued flags takes _ inductionHypothesis =>
      rw [inductionHypothesis, records_takeValue valued takes other,
        records_takeFlags _ (Joined.takesValue_ofSwitch spelled) flags,
        List.exists_mem_cons_iff, Word.gives_iff spelled, List.mem_append, List.mem_singleton,
        or_assoc, or_assoc, or_assoc]
      rfl
  | behind spelled valued flags takes _ inductionHypothesis =>
      rw [inductionHypothesis, records_takeValue valued takes other,
        records_takeFlags _ (Joined.takesValue_ofSwitch spelled) flags,
        List.exists_mem_cons_iff, List.exists_mem_cons_iff, Word.gives_iff spelled,
        or_iff_right (Word.not_gives rfl switch), List.mem_append, List.mem_singleton,
        or_assoc, or_assoc, or_assoc]
      rfl

/-! What lasts while the words are taken. -/

/-- Whether a property of the arguments lasts when one more operand, flag or value is taken. -/
structure Lasts (property : Arguments → Prop) : Prop where
  operand : ∀ {arguments : Arguments} (name : String),
    property arguments → property { arguments with file := some name }
  flag : ∀ {draft next : Draft} {switch : Switch},
    property draft.arguments → draft.takeFlag switch = .ok next → property next.arguments
  value : ∀ {draft next : Draft} {switch : Switch} {text : String},
    property draft.arguments → draft.takeValue switch text = .ok next → property next.arguments

section

variable
  {property : Arguments → Prop}
  (stable : Lasts property)
  (held : property draft.arguments)

include stable held

theorem Lasts.takeOperand (name : String) : property (draft.takeOperand name).arguments := by
  unfold Draft.takeOperand
  split
  · exact held
  · exact stable.operand name held

omit stable in
theorem holds_takeTerminator (text : String) :
    property (draft.takeTerminator text).arguments := by
  unfold takeTerminator
  split <;> exact held

theorem Lasts.takeFlags
    (switches : List Switch)
    (taken : draft.takeFlags switches = .ok next) :
    property next.arguments := by
  induction switches generalizing draft with
  | nil =>
      cases taken
      exact held
  | cons switch rest inductionHypothesis =>
      unfold Draft.takeFlags at taken
      rw [List.foldlM_cons] at taken
      obtain ⟨flagged, first, others⟩ := Outcome.bind_eq_ok taken
      exact inductionHypothesis (stable.flag held first) others

/-- What lasts through every word lasts through a command line. -/
theorem Takes.lasts (takes : Takes words draft last) : property last.arguments := by
  induction takes with
  | done =>
      exact held
  | operand _ inductionHypothesis =>
      exact inductionHypothesis (stable.takeOperand held _)
  | terminator _ inductionHypothesis =>
      exact inductionHypothesis (holds_takeTerminator held _)
  | unknown _ inductionHypothesis =>
      exact inductionHypothesis held
  | @flags _ _ _ _ _ _ draft _ _ _ _ flags _ inductionHypothesis =>
      have passed : property draft.pass.arguments := held
      exact inductionHypothesis (stable.takeFlags passed _ flags)
  | @attached _ _ _ _ _ _ _ draft _ _ _ _ _ flags takes _ inductionHypothesis
  | @behind _ _ _ _ _ _ _ draft _ _ _ _ _ flags takes _ inductionHypothesis =>
      have passed : property draft.pass.arguments := held
      exact inductionHypothesis (stable.value (stable.takeFlags passed _ flags) takes)

end

/-- Whether the tape size on record, if there is one, can be written as a numeral. -/
def SizeHasNumeral (arguments : Arguments) : Prop :=
  ∀ size, arguments.tapeSize = .value size → Text.hasNumeral size.natAbs = true

theorem lasts_sizeHasNumeral : Lasts SizeHasNumeral where
  operand _ held := held
  flag := by
    intro draft next switch held taken
    cases switch with
    | help =>
        cases taken
    | intermediate | compile =>
        simp only [takeFlag] at taken
        split at taken <;> cases taken
        exact held
    | parse | tapeSize | output | compiler | noJit | stats | verbose =>
        cases taken
        exact held
  value := by
    intro draft next switch text held taken
    unfold takeValue at taken
    dsimp only at taken
    split at taken
    case h_5 numeral _ =>
      -- This number is the only one that was not on record before.
      cases read : Text.readInteger? numeral with
      | none =>
          rw [read] at taken
          cases taken
      | some size =>
          rw [read] at taken
          cases taken
          rintro _ ⟨⟩
          exact Text.hasNumeral_of_readInteger? read
    case h_4 =>
      cases taken
      exact nofun
    all_goals
      cases taken
      exact held

end Draft

/-- Once the words have their roles they are taken, and nothing may be left over. -/
theorem parseArguments_of_classify
    {words : List String}
    {classified : List Word}
    (classifies : classify words = .ok classified) :
    parseArguments words =
      (Draft.takeWords classified .initial).bind fun draft =>
        if draft.leftOver.isEmpty then .ok draft.arguments
        else .error (.usage (.unrecognized draft.leftOver)) := by
  unfold parseArguments
  rw [classifies]
  rfl

theorem takes_of_parseArguments
    {words : List String}
    {arguments : Arguments}
    (parsed : parseArguments words = .ok arguments) :
    ∃ classified last,
      classify words = .ok classified ∧ Draft.Takes classified .initial last ∧
        last.arguments = arguments := by
  cases classifies : classify words with
  | error error =>
      unfold parseArguments at parsed
      rw [classifies] at parsed
      cases parsed
  | ok classified =>
      rw [parseArguments_of_classify classifies] at parsed
      obtain ⟨last, taken, parsed⟩ := Outcome.bind_eq_ok parsed
      split at parsed <;> cases parsed
      exact ⟨classified, last, rfl, Draft.takes_of_takeWords classified taken, rfl⟩

/-- The arguments have a switch on record exactly if the command line gives it. -/
theorem records_iff_gives
    {words : List String}
    {arguments : Arguments}
    (parsed : parseArguments words = .ok arguments)
    (switch : Switch)
    (other : switch ≠ .tapeSize) :
    arguments.records switch = true ↔ Gives words switch := by
  obtain ⟨classified, last, classifies, takes, rfl⟩ := takes_of_parseArguments parsed
  have nothing : Draft.initial.arguments.records switch = false := by
    cases switch <;> rfl
  rw [takes.records_iff other, nothing]
  constructor
  · rintro (recorded | given)
    · cases recorded
    · exact ⟨classified, classifies, given⟩
  · rintro ⟨found, same, given⟩
    rw [classifies] at same
    cases same
    exact .inr given

/-- The tape size of a command line that is parsed can be written as a numeral. -/
theorem hasNumeral_of_parseArguments
    {words : List String}
    {arguments : Arguments}
    {size : Int}
    (parsed : parseArguments words = .ok arguments)
    (sized : arguments.tapeSize = .value size) :
    Text.hasNumeral size.natAbs = true := by
  have usual : Draft.SizeHasNumeral Draft.initial.arguments := by
    rintro _ ⟨⟩
    exact Text.hasNumeral_of_isSize (by decide)
  obtain ⟨_, last, _, takes, rfl⟩ := takes_of_parseArguments parsed
  exact takes.lasts Draft.lasts_sizeHasNumeral usual size sized

/-- A value counts as given if it is a text that is not empty. -/
theorem given?_eq_some_iff
    {value : Option (Given String)}
    {text : String} :
    given? value = some text ↔ value = some (.value text) ∧ text ≠ "" := by
  unfold given?
  split
  · simp
  · next other nonempty =>
      simp only [Option.some.injEq, Given.value.injEq]
      exact ⟨fun same => ⟨same, same ▸ nonempty⟩, And.left⟩
  · next other =>
      constructor
      · exact nofun
      · exact fun ⟨same, _⟩ => absurd same (other text)

end Brainfuck.CommandLine
