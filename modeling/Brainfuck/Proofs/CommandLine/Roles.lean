import Brainfuck.CommandLine.Word
import Mathlib.Data.List.TakeWhile

namespace Brainfuck.CommandLine

/-!
# Roles of words

A word is an operand, and may be the value of the switch in front of it, unless it
resembles a switch.  What begins with a dash and is neither a dash alone, nor a negative
number, nor a text with a space in it, is never an operand.
-/

/-- The letters behind the dash of a switch with a one-letter name. -/
def switchLetters : List Char :=
  ['h', 'p', 'n', 'i', 'c', 'o', 'v']

/-- The names of switches with two dashes. -/
def switchNames : List String :=
  ["--help", "--parse", "--tapesize", "--intermediate", "--compile", "--output", "--cc",
    "--no-jit", "--stats", "--verbose"]

/--
Whether a text reads like a switch: by the letter of one, whatever is behind it, or by
the beginning of the name of one, with or without an equals sign and a value.
-/
inductive ResemblesSwitch : List Char → Prop where
  | letter
      {letter : Char}
      {rest : List Char}
      (known : letter ∈ switchLetters) :
      ResemblesSwitch ('-' :: letter :: rest)
  | name
      {start rest : List Char}
      {name : String}
      (known : name ∈ switchNames)
      (abbreviates : '-' :: '-' :: start <+: name.toList)
      (valued : rest = [] ∨ ∃ value, rest = '=' :: value) :
      ResemblesSwitch ('-' :: '-' :: start ++ rest)

/-- A number without a sign, of which the integer part may be missing. -/
inductive IsUnsignedNumeral : List Char → Prop where
  | whole
      {digits : List Char}
      (nonempty : digits ≠ [])
      (decimal : ∀ digit ∈ digits, Text.isDecimalDigit digit = true) :
      IsUnsignedNumeral digits
  | fraction
      {whole digits : List Char}
      (leading : ∀ digit ∈ whole, Text.isDecimalDigit digit = true)
      (nonempty : digits ≠ [])
      (decimal : ∀ digit ∈ digits, Text.isDecimalDigit digit = true) :
      IsUnsignedNumeral (whole ++ '.' :: digits)

/-- A number behind a dash; one line feed may follow it. -/
inductive IsNegativeNumeral : List Char → Prop where
  | bare
      {number : List Char}
      (numeral : IsUnsignedNumeral number) :
      IsNegativeNumeral ('-' :: number)
  | fed
      {number : List Char}
      (numeral : IsUnsignedNumeral number) :
      IsNegativeNumeral ('-' :: (number ++ ['\n']))

/-- Whether a text may be given as the value of a switch in a word of its own. -/
inductive PassesAsValue (text : String) : Prop where
  | plain (head : text.toList.head? ≠ some '-')
  | dash (alone : text = "-")
  | number (negative : IsNegativeNumeral text.toList)
  | spaced
      (space : ' ' ∈ text.toList)
      (foreign : ¬ ResemblesSwitch text.toList)

/-! Negative numbers. -/

theorem areDigits_iff
    (characters : List Char) :
    areDigits characters = true ↔
      characters ≠ [] ∧ ∀ digit ∈ characters, Text.isDecimalDigit digit = true := by
  simp [areDigits]

theorem isDecimalDigit_point : Text.isDecimalDigit '.' = false := by
  decide

theorem isUnsignedNumber_iff
    (characters : List Char) :
    isUnsignedNumber characters = true ↔ IsUnsignedNumeral characters := by
  unfold isUnsignedNumber
  rw [Bool.or_eq_true, areDigits_iff]
  constructor
  · rintro (⟨nonempty, decimal⟩ | fraction)
    · exact .whole nonempty decimal
    · split at fraction
      · next digits behind =>
          obtain ⟨nonempty, decimal⟩ := (areDigits_iff digits).mp fraction
          have parts := List.takeWhile_append_dropWhile (p := Text.isDecimalDigit) (l := characters)
          rw [behind] at parts
          rw [← parts]
          exact .fraction (fun _ => List.mem_takeWhile_imp) nonempty decimal
      · cases fraction
  · intro numeral
    cases numeral with
    | whole nonempty decimal =>
        exact .inl ⟨nonempty, decimal⟩
    | @fraction whole digits leading nonempty decimal =>
        have behind : (whole ++ '.' :: digits).dropWhile Text.isDecimalDigit = '.' :: digits := by
          rw [List.dropWhile_append_of_pos leading,
            List.dropWhile_cons_of_neg (by simp [isDecimalDigit_point])]
        rw [behind]
        exact .inr ((areDigits_iff digits).mpr ⟨nonempty, decimal⟩)

theorem IsUnsignedNumeral.ne_nil
    {number : List Char}
    (numeral : IsUnsignedNumeral number) :
    number ≠ [] := by
  cases numeral with
  | whole nonempty => exact nonempty
  | fraction => simp

/-- A number has nothing but digits and a point in it. -/
theorem IsUnsignedNumeral.of_mem
    {number : List Char}
    {character : Char}
    (numeral : IsUnsignedNumeral number)
    (member : character ∈ number) :
    Text.isDecimalDigit character = true ∨ character = '.' := by
  cases numeral with
  | whole _ decimal =>
      exact .inl (decimal character member)
  | fraction leading _ decimal =>
      rcases List.mem_append.mp member with earlier | later
      · exact .inl (leading character earlier)
      · rcases List.mem_cons.mp later with point | digit
        · exact .inr point
        · exact .inl (decimal character digit)

/-- A number has a digit in it. -/
theorem IsUnsignedNumeral.exists_digit
    {number : List Char}
    (numeral : IsUnsignedNumeral number) :
    ∃ digit ∈ number, Text.isDecimalDigit digit = true := by
  cases numeral with
  | whole nonempty decimal =>
      obtain ⟨digit, member⟩ := List.exists_mem_of_ne_nil number nonempty
      exact ⟨digit, member, decimal digit member⟩
  | @fraction _ digits _ nonempty decimal =>
      obtain ⟨digit, member⟩ := List.exists_mem_of_ne_nil digits nonempty
      exact ⟨digit, by simp [member], decimal digit member⟩

theorem IsNegativeNumeral.exists_digit
    {characters : List Char}
    (negative : IsNegativeNumeral characters) :
    ∃ digit ∈ characters, Text.isDecimalDigit digit = true := by
  cases negative with
  | bare numeral =>
      obtain ⟨digit, member, decimal⟩ := numeral.exists_digit
      exact ⟨digit, List.mem_cons_of_mem _ member, decimal⟩
  | fed numeral =>
      obtain ⟨digit, member, decimal⟩ := numeral.exists_digit
      exact ⟨digit, List.mem_cons_of_mem _ (List.mem_append_left _ member), decimal⟩

theorem isNegativeNumber_iff
    (word : String) :
    isNegativeNumber word = true ↔ IsNegativeNumeral word.toList := by
  have unfed {number : List Char} (numeral : IsUnsignedNumeral number) :
      number.getLast? ≠ some '\n' := by
    intro feed
    rcases numeral.of_mem (List.mem_of_getLast? feed) with digit | point
    · exact absurd digit (by decide)
    · cases point
  unfold isNegativeNumber
  generalize word.toList = characters
  constructor
  · intro negative
    split at negative
    · next rest =>
        rw [isUnsignedNumber_iff] at negative
        split at negative
        · next feed =>
            obtain ⟨number, rfl⟩ := List.getLast?_eq_some_iff.mp feed
            rw [List.dropLast_concat] at negative
            exact .fed negative
        · exact .bare negative
    · cases negative
  · intro negative
    cases negative with
    | bare numeral =>
        simp only [unfed numeral, ↓reduceIte]
        exact (isUnsignedNumber_iff _).mpr numeral
    | fed numeral =>
        simp only [List.getLast?_concat, List.dropLast_concat, ↓reduceIte]
        exact (isUnsignedNumber_iff _).mpr numeral

/-! What reads like a switch. -/

theorem known_of_mem_table :
    ∀ entry ∈ Switch.table,
      entry.1 ∈ switchNames ∨ ∃ letter ∈ switchLetters, entry.1.toList = ['-', letter] := by
  simp [Switch.table, Switch.all, Switch.names, switchNames, switchLetters]

theorem exists_entry_of_mem_switchNames :
    ∀ name ∈ switchNames, ∃ entry ∈ Switch.table, entry.1 = name := by
  simp [Switch.table, Switch.all, Switch.names, switchNames]

theorem exists_entry_of_mem_switchLetters :
    ∀ letter ∈ switchLetters, ∃ entry ∈ Switch.table, entry.1.toList = ['-', letter] := by
  simp [Switch.table, Switch.all, Switch.names, switchLetters]

theorem not_mem_equals :
    ∀ name ∈ switchNames, '=' ∉ name.toList := by
  simp [switchNames]

theorem dashed :
    ∀ name ∈ switchNames, name.toList.take 2 = ['-', '-'] := by
  simp [switchNames]

theorem dash_not_mem_switchLetters : '-' ∉ switchLetters := by
  decide

theorem mem_table_of_ofName?
    {name : String}
    {switch : Switch}
    (found : Switch.ofName? name = some switch) :
    (name, switch) ∈ Switch.table := by
  obtain ⟨_, _, table, _⟩ := List.lookup_eq_some_iff.mp found
  rw [table]
  simp

theorem resembles_of_mem_switchNames
    {name : String}
    (known : name ∈ switchNames) :
    ResemblesSwitch name.toList := by
  have parts := List.take_append_drop 2 name.toList
  rw [dashed name known] at parts
  rw [← parts, ← List.append_nil (['-', '-'] ++ _)]
  exact .name known (by rw [← parts]; exact List.prefix_rfl) (.inl rfl)

/-- The name of a switch reads like one. -/
theorem resembles_of_ofName?
    {name : String}
    {switch : Switch}
    (found : Switch.ofName? name = some switch) :
    ResemblesSwitch name.toList := by
  rcases known_of_mem_table _ (mem_table_of_ofName? found) with known | ⟨letter, known, spelled⟩
  · exact resembles_of_mem_switchNames known
  · rw [spelled]
    exact .letter known

/-- What reads like a switch does so with a value behind an equals sign as well. -/
theorem ResemblesSwitch.append_value
    {characters : List Char}
    (resembles : ResemblesSwitch characters)
    (unvalued : '=' ∉ characters)
    (value : List Char) :
    ResemblesSwitch (characters ++ '=' :: value) := by
  cases resembles with
  | letter known =>
      exact .letter known
  | name known abbreviates valued =>
      rcases valued with rfl | ⟨other, rfl⟩
      · rw [List.append_nil]
        exact .name known abbreviates (.inr ⟨value, rfl⟩)
      · exact absurd (List.mem_append_right _ List.mem_cons_self) unvalued

/-- What is in front of the first equals sign ends there, or is the whole text. -/
theorem takeWhile_ne_equals
    {start rest : List Char}
    (unvalued : '=' ∉ start)
    (valued : rest = [] ∨ ∃ value, rest = '=' :: value) :
    (start ++ rest).takeWhile (fun character => character ≠ '=') = start := by
  have inside : ∀ character ∈ start, decide (character ≠ '=') = true := by
    rintro character member
    exact decide_eq_true fun same => unvalued (same ▸ member)
  rw [List.takeWhile_append_of_pos inside]
  rcases valued with rfl | ⟨value, rfl⟩
  · rw [List.takeWhile_nil, List.append_nil]
  · rw [List.takeWhile_cons_of_neg (by decide), List.append_nil]

theorem splitAtEquals?_eq_some
    {word name value : String}
    (split : splitAtEquals? word = some (name, value)) :
    word.toList = name.toList ++ '=' :: value.toList ∧ '=' ∉ name.toList := by
  unfold splitAtEquals? at split
  split at split
  · cases split
  · next character rest behind =>
      cases split
      have parts := List.takeWhile_append_dropWhile
        (p := fun character => decide (character ≠ '=')) (l := word.toList)
      have ends := List.head?_dropWhile_not
        (fun character => decide (character ≠ '=')) word.toList
      rw [behind] at parts ends
      have equals : character = '=' := by simpa using ends
      subst equals
      simp only [String.toList_ofList]
      refine ⟨parts.symm, fun member => ?_⟩
      exact absurd (List.mem_takeWhile_imp member) (by decide)

theorem splitAtEquals?_eq_none
    {word : String}
    (whole : splitAtEquals? word = none) :
    '=' ∉ word.toList := by
  unfold splitAtEquals? at whole
  split at whole
  · next behind =>
      intro member
      exact absurd (List.dropWhile_eq_nil_iff.mp behind '=' member) (by decide)
  · cases whole

theorem shortCandidates_eq_nil_iff
    {word : String}
    {letter : Char}
    {rest : List Char}
    (spelled : word.toList = '-' :: letter :: rest)
    (single : letter ≠ '-') :
    shortCandidates word = [] ↔ letter ∉ switchLetters := by
  have named : String.ofList (word.toList.take 2) = String.ofList ['-', letter] := by
    rw [spelled]
    rfl
  unfold shortCandidates
  rw [named]
  dsimp only
  cases found : Switch.ofName? (String.ofList ['-', letter]) with
  | none =>
      refine iff_of_true rfl fun known => ?_
      obtain ⟨entry, member, named⟩ := exists_entry_of_mem_switchLetters letter known
      have other := List.lookup_eq_none_iff.mp found entry member
      rw [← named, String.ofList_toList, bne_self_eq_false] at other
      cases other
  | some switch =>
      refine iff_of_false (List.cons_ne_nil _ _) (not_not.mpr ?_)
      rcases known_of_mem_table _ (mem_table_of_ofName? found) with
        known | ⟨other, known, spelledSame⟩
      · have dashes := dashed _ known
        rw [String.toList_ofList] at dashes
        cases dashes
        exact absurd rfl single
      · rw [String.toList_ofList] at spelledSame
        cases spelledSame
        exact known

theorem longCandidates_eq_nil_iff
    (word : String) :
    longCandidates word = [] ↔
      ∀ entry ∈ Switch.table,
        ¬ word.toList.takeWhile (fun character => character ≠ '=') <+: entry.1.toList := by
  have begins {start : String} (attached : Option String) :
      (Switch.table.filterMap fun entry =>
          if start.toList.isPrefixOf entry.1.toList then
            some (Role.switch entry.2 entry.1 attached)
          else none) = [] ↔
        ∀ entry ∈ Switch.table, ¬ start.toList <+: entry.1.toList := by
    rw [List.filterMap_eq_nil_iff]
    refine forall₂_congr fun entry _ => ?_
    rw [ite_eq_right_iff, ← List.isPrefixOf_iff_prefix]
    simp
  unfold longCandidates
  cases split : splitAtEquals? word with
  | none =>
      have start := takeWhile_ne_equals (splitAtEquals?_eq_none split) (.inl rfl)
      rw [List.append_nil] at start
      rw [start]
      exact begins none
  | some parts =>
      obtain ⟨name, value⟩ := parts
      obtain ⟨spelled, unvalued⟩ := splitAtEquals?_eq_some split
      rw [spelled, takeWhile_ne_equals unvalued (.inr ⟨_, rfl⟩)]
      exact begins (some value)

/-- With two dashes, what reads like a switch begins the name of one. -/
theorem resembles_dashed_iff
    (rest : List Char) :
    ResemblesSwitch ('-' :: '-' :: rest) ↔
      ∃ entry ∈ Switch.table,
        ('-' :: '-' :: rest).takeWhile (fun character => character ≠ '=') <+:
          entry.1.toList := by
  constructor
  · intro resembles
    generalize spelled : '-' :: '-' :: rest = characters at resembles ⊢
    cases resembles with
    | letter known =>
        cases spelled
        exact absurd known dash_not_mem_switchLetters
    | @name start behind name known abbreviates valued =>
        obtain ⟨entry, member, rfl⟩ := exists_entry_of_mem_switchNames name known
        have unvalued : '=' ∉ '-' :: '-' :: start := fun equals =>
          not_mem_equals _ known (abbreviates.subset equals)
        rw [takeWhile_ne_equals unvalued valued]
        exact ⟨entry, member, abbreviates⟩
  · rintro ⟨entry, member, abbreviates⟩
    have parts := List.takeWhile_append_dropWhile
      (p := fun character => decide (character ≠ '=')) (l := rest)
    have ends := List.head?_dropWhile_not (fun character => decide (character ≠ '=')) rest
    have start :
        ('-' :: '-' :: rest).takeWhile (fun character => character ≠ '=') =
          '-' :: '-' :: rest.takeWhile (fun character => character ≠ '=') := by
      rw [List.takeWhile_cons_of_pos (by decide), List.takeWhile_cons_of_pos (by decide)]
    rw [start] at abbreviates
    rcases known_of_mem_table entry member with known | ⟨letter, known, spelled⟩
    · rw [← parts]
      refine .name known abbreviates ?_
      cases behind : rest.dropWhile fun character => decide (character ≠ '=') with
      | nil =>
          exact .inl rfl
      | cons character value =>
          rw [behind] at ends
          have equals : character = '=' := by simpa using ends
          exact .inr ⟨value, by rw [equals]⟩
    · rw [spelled, List.cons_prefix_cons, List.cons_prefix_cons] at abbreviates
      rw [← abbreviates.2.1] at known
      exact absurd known dash_not_mem_switchLetters

/-- A word with a dash may be an abbreviation exactly if it reads like a switch. -/
theorem candidates_eq_nil_iff
    {word : String}
    {letter : Char}
    {rest : List Char}
    (spelled : word.toList = '-' :: letter :: rest) :
    candidates word = [] ↔ ¬ ResemblesSwitch word.toList := by
  by_cases double : letter = '-'
  · subst double
    have long : candidates word = longCandidates word := by
      unfold candidates
      rw [spelled]
      rfl
    rw [long, longCandidates_eq_nil_iff, spelled, resembles_dashed_iff]
    simp only [not_exists, not_and]
  · have short : candidates word = shortCandidates word := by
      unfold candidates
      rw [spelled]
      split
      · next same =>
          cases same
          exact absurd rfl double
      · rfl
    rw [short, shortCandidates_eq_nil_iff spelled double, spelled]
    refine not_congr ⟨.letter, fun resembles => ?_⟩
    generalize same : '-' :: letter :: rest = characters at resembles
    cases resembles with
    | letter known =>
        cases same
        exact known
    | name =>
        cases same
        exact absurd rfl double

theorem mem_candidates
    {word : String}
    {role : Role}
    (member : role ∈ candidates word) :
    ∃ switch name attached, role = .switch switch name attached := by
  unfold candidates at member
  split at member
  · obtain ⟨entry, _, begins⟩ := List.mem_filterMap.mp member
    obtain ⟨_, same⟩ := Option.ite_none_right_eq_some.mp begins
    exact ⟨_, _, _, (Option.some.inj same).symm⟩
  · unfold shortCandidates at member
    dsimp only at member
    split at member
    · rw [List.mem_singleton] at member
      exact ⟨_, _, _, member⟩
    · cases member

/-! The role of a word. -/

/-- A word with a dash that does not read like a switch needs a number or a space. -/
theorem roleOf_of_foreign
    {word : String}
    {letter : Char}
    {rest : List Char}
    (spelled : word.toList = '-' :: letter :: rest)
    (foreign : ¬ ResemblesSwitch word.toList) :
    roleOf word =
      if isNegativeNumber word || word.toList.contains ' ' then .ok .operand
      else .ok .unknown := by
  have head : ¬ word.toList.head? ≠ some '-' := by
    rw [spelled]
    simp
  have other : word ≠ "-" := by
    rintro rfl
    cases spelled
  have unnamed : Switch.ofName? word = none :=
    Option.eq_none_iff_forall_ne_some.mpr fun _ found => foreign (resembles_of_ofName? found)
  have role : roleOfOther word =
      if isNegativeNumber word || word.toList.contains ' ' then .ok .operand
      else .ok .unknown := by
    unfold roleOfOther
    rw [(candidates_eq_nil_iff spelled).mpr foreign]
  unfold roleOf
  simp only [head, ↓reduceIte, unnamed, other]
  cases split : splitAtEquals? word with
  | none =>
      exact role
  | some parts =>
      obtain ⟨name, value⟩ := parts
      obtain ⟨valued, unvalued⟩ := splitAtEquals?_eq_some split
      have nameless : Switch.ofName? name = none := by
        refine Option.eq_none_iff_forall_ne_some.mpr fun _ found => foreign ?_
        rw [valued]
        exact (resembles_of_ofName? found).append_value unvalued value.toList
      simp only [nameless]
      exact role

theorem ResemblesSwitch.exists_letter
    {characters : List Char}
    (resembles : ResemblesSwitch characters) :
    ∃ letter rest, characters = '-' :: letter :: rest := by
  cases resembles with
  | letter => exact ⟨_, _, rfl⟩
  | name => exact ⟨_, _, rfl⟩

theorem roleOfOther_ne_operand
    {word : String}
    (several : candidates word ≠ []) :
    roleOfOther word ≠ .ok .operand := by
  unfold roleOfOther
  split
  · next role single =>
      obtain ⟨_, _, _, rfl⟩ := mem_candidates (single ▸ List.mem_singleton_self role)
      exact nofun
  · next nothing =>
      exact absurd nothing several
  · exact nofun

/-- A word that reads like a switch is no operand. -/
theorem roleOf_of_resembles
    {word : String}
    (resembles : ResemblesSwitch word.toList) :
    roleOf word ≠ .ok .operand := by
  obtain ⟨letter, rest, spelled⟩ := resembles.exists_letter
  have other : roleOfOther word ≠ .ok .operand :=
    roleOfOther_ne_operand fun nothing =>
      (candidates_eq_nil_iff spelled).mp nothing resembles
  have head : ¬ word.toList.head? ≠ some '-' := by
    rw [spelled]
    simp
  have long : word ≠ "-" := by
    rintro rfl
    cases spelled
  unfold roleOf
  simp only [head, ↓reduceIte, long]
  split
  · exact nofun
  · split
    · exact other
    · split
      · exact nofun
      · exact other

theorem IsNegativeNumeral.exists_letter
    {characters : List Char}
    (negative : IsNegativeNumeral characters) :
    ∃ letter rest, characters = '-' :: letter :: rest ∧
      (Text.isDecimalDigit letter = true ∨ letter = '.') := by
  have first {number : List Char} (numeral : IsUnsignedNumeral number) (behind : List Char) :
      ∃ letter rest, '-' :: (number ++ behind) = '-' :: letter :: rest ∧
        (Text.isDecimalDigit letter = true ∨ letter = '.') := by
    obtain ⟨letter, rest, rfl⟩ := List.exists_cons_of_ne_nil numeral.ne_nil
    exact ⟨letter, rest ++ behind, rfl, numeral.of_mem List.mem_cons_self⟩
  cases negative with
  | bare numeral =>
      have found := first numeral []
      rw [List.append_nil] at found
      exact found
  | fed numeral =>
      exact first numeral ['\n']

/-- Behind its dash a number has a digit or a point, and a switch has neither. -/
theorem IsNegativeNumeral.not_resembles
    {characters : List Char}
    (negative : IsNegativeNumeral characters) :
    ¬ ResemblesSwitch characters := by
  have letters : ∀ letter ∈ '-' :: switchLetters,
      ¬ (Text.isDecimalDigit letter = true ∨ letter = '.') := by
    simp [switchLetters, Text.isDecimalDigit, Text.decimalValue?, Text.decimalZeros]
  obtain ⟨letter, rest, rfl, numeric⟩ := negative.exists_letter
  intro resembles
  generalize same : '-' :: letter :: rest = characters at resembles
  cases resembles with
  | letter known =>
      cases same
      exact letters letter (List.mem_cons_of_mem _ known) numeric
  | name =>
      cases same
      exact letters '-' List.mem_cons_self numeric

theorem passesAsValue_of_roleOf
    {word : String}
    (operand : roleOf word = .ok .operand) :
    PassesAsValue word := by
  cases characters : word.toList with
  | nil =>
      refine .plain ?_
      rw [characters]
      simp
  | cons dash behind =>
      by_cases dashed : dash = '-'
      · subst dashed
        cases behind with
        | nil =>
            exact .dash (String.toList_injective characters)
        | cons letter rest =>
            have foreign : ¬ ResemblesSwitch word.toList := fun resembles =>
              roleOf_of_resembles resembles operand
            rw [roleOf_of_foreign characters foreign] at operand
            split at operand
            · next either =>
                rw [Bool.or_eq_true, isNegativeNumber_iff, List.contains_iff_mem] at either
                rcases either with negative | space
                · exact .number negative
                · exact .spaced space foreign
            · cases operand
      · refine .plain ?_
        rw [characters, List.head?_cons, ne_eq, Option.some.injEq]
        exact dashed

/-- The words that are operands are those that pass as values. -/
theorem roleOf_eq_operand_iff
    (word : String) :
    roleOf word = .ok .operand ↔ PassesAsValue word := by
  refine ⟨passesAsValue_of_roleOf, fun passes => ?_⟩
  cases passes with
  | plain head =>
      unfold roleOf
      rw [if_pos head]
  | dash alone =>
      subst alone
      rfl
  | number negative =>
      obtain ⟨_, _, spelled, _⟩ := negative.exists_letter
      rw [roleOf_of_foreign spelled negative.not_resembles,
        (isNegativeNumber_iff word).mpr negative, Bool.true_or, if_pos rfl]
  | spaced space foreign =>
      by_cases head : word.toList.head? = some '-'
      · obtain ⟨behind, characters⟩ := List.head?_eq_some_iff.mp head
        cases behind with
        | nil =>
            rw [characters] at space
            exact absurd space (by decide)
        | cons letter rest =>
            rw [roleOf_of_foreign characters foreign, List.contains_iff_mem.mpr space,
              Bool.or_true, if_pos rfl]
      · unfold roleOf
        rw [if_pos head]

end Brainfuck.CommandLine
