import Brainfuck.File.Path
import Mathlib.Data.List.Basic
import Mathlib.Tactic.IntervalCases

namespace Brainfuck.File

/-!
# Paths and their texts

A path that was read from a text is read again from the text that it is shown
as.  Where it has a component, that text names an entry, and it has no character
that the first text does not have, but for slashes and dots.
-/

theorem splitAtSlashes_eq_splitOn (text : List Char) :
    splitAtSlashes text = text.splitOn '/' := by
  fun_induction splitAtSlashes text with
  | case1 =>
      rfl
  | case2 rest inductionHypothesis =>
      rw [List.splitOn_cons_eq_if_modifyHead, inductionHypothesis]
      rfl
  | case3 character rest distinct none_left inductionHypothesis =>
      rw [none_left] at inductionHypothesis
      exact absurd inductionHypothesis.symm (List.splitOn_ne_nil _ _)
  | case4 character rest distinct first others split inductionHypothesis =>
      have other : (character == '/') = false := beq_eq_false_iff_ne.mpr distinct
      rw [List.splitOn_cons_eq_if_modifyHead, other, ← inductionHypothesis, split]
      rfl

theorem joinBySlashes_eq_intercalate (stretches : List (List Char)) :
    joinBySlashes stretches = ['/'].intercalate stretches := by
  fun_induction joinBySlashes stretches with
  | case1 =>
      rfl
  | case2 last =>
      rw [List.intercalate_singleton]
  | case3 first rest nonempty inductionHypothesis =>
      rw [List.intercalate_cons_of_ne_nil nonempty, inductionHypothesis, List.append_assoc]
      rfl

/-- Stretches without a slash are found again where they are joined. -/
theorem split_joinBySlashes
    {stretches : List (List Char)}
    (whole : ∀ stretch ∈ stretches, '/' ∉ stretch)
    (nonempty : stretches ≠ []) :
    splitAtSlashes (joinBySlashes stretches) = stretches := by
  rw [joinBySlashes_eq_intercalate, splitAtSlashes_eq_splitOn,
    List.splitOn_intercalate '/' whole nonempty]

/-- The characters of a stretch are characters of the text, and no slashes. -/
theorem of_mem_stretch (text : List Char) :
    ∀ stretch ∈ splitAtSlashes text, ∀ character ∈ stretch,
      character ∈ text ∧ character ≠ '/' := by
  fun_induction splitAtSlashes text with
  | case1 =>
      intro stretch split character within
      rw [List.mem_singleton.mp split] at within
      cases within
  | case2 rest inductionHypothesis =>
      intro stretch split character within
      rcases List.mem_cons.mp split with rfl | later
      · cases within
      · obtain ⟨found, other⟩ := inductionHypothesis stretch later character within
        exact ⟨List.mem_cons_of_mem _ found, other⟩
  | case3 head rest distinct none_left =>
      intro stretch split character within
      rw [List.mem_singleton.mp split] at within
      rw [List.mem_singleton.mp within]
      exact ⟨List.mem_cons_self, distinct⟩
  | case4 head rest distinct first others found inductionHypothesis =>
      rw [found] at inductionHypothesis
      intro stretch split character within
      rcases List.mem_cons.mp split with rfl | later
      · rcases List.mem_cons.mp within with rfl | behind
        · exact ⟨List.mem_cons_self, distinct⟩
        · obtain ⟨held, other⟩ :=
            inductionHypothesis first List.mem_cons_self character behind
          exact ⟨List.mem_cons_of_mem _ held, other⟩
      · obtain ⟨held, other⟩ :=
          inductionHypothesis stretch (List.mem_cons_of_mem _ later) character within
        exact ⟨List.mem_cons_of_mem _ held, other⟩

theorem splitAtSlashes_cons
    {character : Char}
    (distinct : character ≠ '/')
    (text : List Char) :
    splitAtSlashes (character :: text) =
      (splitAtSlashes text).modifyHead (List.cons character) := by
  rw [splitAtSlashes_eq_splitOn, splitAtSlashes_eq_splitOn,
    List.splitOn_cons_eq_if_modifyHead, if_neg (by simpa using distinct)]

/-- Characters that are no slashes only add to the last stretch of a text. -/
theorem exists_last_stretch
    {more : List Char}
    (whole : '/' ∉ more)
    (text : List Char) :
    ∃ above last,
      splitAtSlashes text = above ++ [last] ∧
        splitAtSlashes (text ++ more) = above ++ [last ++ more] := by
  induction text with
  | nil =>
      refine ⟨[], [], rfl, ?_⟩
      rw [List.nil_append, splitAtSlashes_eq_splitOn, List.splitOn_eq_singleton whole]
      rfl
  | cons character rest inductionHypothesis =>
      obtain ⟨above, last, split, longer⟩ := inductionHypothesis
      by_cases slash : character = '/'
      · subst slash
        refine ⟨[] :: above, last, ?_, ?_⟩
        · change [] :: splitAtSlashes rest = _
          rw [split]
          rfl
        · change [] :: splitAtSlashes (rest ++ more) = _
          rw [longer]
          rfl
      · rw [List.cons_append, splitAtSlashes_cons slash, splitAtSlashes_cons slash, split,
          longer]
        cases above with
        | nil =>
            exact ⟨[], character :: last, rfl, rfl⟩
        | cons first others =>
            exact ⟨(character :: first) :: others, last, rfl, rfl⟩

theorem splitAtSlashes_slashes
    (count : Nat)
    (text : List Char) :
    splitAtSlashes (List.replicate count '/' ++ text) =
      List.replicate count [] ++ splitAtSlashes text := by
  induction count with
  | zero =>
      rfl
  | succ count inductionHypothesis =>
      rw [List.replicate_succ, List.replicate_succ, List.cons_append, List.cons_append,
        ← inductionHypothesis]
      rfl

/-- Only short stretches do not count. -/
theorem isComponent_of_length
    {stretch : List Char}
    (long : 1 < stretch.length) :
    isComponent stretch = true := by
  unfold isComponent
  rw [Bool.and_eq_true, bne_iff_ne, bne_iff_ne]
  constructor <;>
    intro same <;>
    rw [same] at long <;>
    exact absurd long (by decide)

namespace Path

/-- Whether a name can stand between two slashes of a path. -/
def IsName (name : String) : Prop :=
  isComponent name.toList = true ∧ '/' ∉ name.toList

/-- Whether a path is one that some text spells. -/
structure IsSpelled (path : Path) : Prop where
  root : path.rootSlashes ≤ 2
  parts : ∀ part ∈ path.parts, IsName part

theorem isSpelled_ofText (text : String) : (ofText text).IsSpelled where
  root := by
    unfold ofText rootOf
    dsimp only
    split <;> decide
  parts part found := by
    obtain ⟨stretch, kept, rfl⟩ := List.mem_map.mp found
    obtain ⟨split, component⟩ := List.mem_filter.mp kept
    rw [IsName, String.toList_ofList]
    exact ⟨component, fun slash => (of_mem_stretch _ _ split _ slash).2 rfl⟩

/-- The last component of a path whose text ends in an extension ends in it as well. -/
theorem exists_name_ofText
    {text extension : String}
    (whole : '/' ∉ extension.toList)
    (long : 1 < extension.toList.length)
    (ends : extension.toList <:+ text.toList) :
    ∃ stem, (ofText text).name = stem ++ extension := by
  obtain ⟨front, same⟩ := ends
  obtain ⟨above, last, _, split⟩ := exists_last_stretch whole front
  have component : isComponent (last ++ extension.toList) = true := by
    apply isComponent_of_length
    rw [List.length_append]
    omega
  refine ⟨String.ofList last, ?_⟩
  unfold name ofText
  dsimp only
  rw [← same, split, List.filter_append, List.filter_cons_of_pos component, List.filter_nil,
    List.map_append, List.map_singleton, List.getLastD_concat, String.ofList_append,
    String.ofList_toList]

theorem name_mem_parts
    {path : Path}
    (named : path.name ≠ "") :
    path.name ∈ path.parts := by
  unfold name at *
  rw [List.getLastD_eq_getLast?] at *
  cases last : path.parts.getLast? with
  | none =>
      rw [last] at named
      exact absurd rfl named
  | some part =>
      exact List.mem_of_getLast? last

theorem IsSpelled.child
    {path : Path}
    {entry : String}
    (spelled : path.IsSpelled)
    (name : IsName entry) :
    (path.child entry).IsSpelled where
  root := spelled.root
  parts part found := by
    rcases List.mem_append.mp found with above | last
    · exact spelled.parts part above
    · rw [List.mem_singleton.mp last]
      exact name

theorem rootOf_slashes
    {count : Nat}
    {rest : List Char}
    (root : count ≤ 2)
    (relative : rest.head? ≠ some '/') :
    rootOf (List.replicate count '/' ++ rest) = count := by
  have stops : (rest.takeWhile fun character => character = '/') = [] := by
    cases rest with
    | nil =>
        rfl
    | cons first more =>
        have other : first ≠ '/' := fun same => relative (congrArg some same)
        rw [List.takeWhile_cons_of_neg (by simpa using other)]
  have slashes :
      ((List.replicate count '/' ++ rest).takeWhile fun character => character = '/') =
        List.replicate count '/' := by
    rw [List.takeWhile_append_of_pos, stops, List.append_nil]
    intro character found
    rw [List.eq_of_mem_replicate found]
    rfl
  unfold rootOf
  rw [slashes, List.length_replicate]
  interval_cases count <;> rfl

/-- The text of a path that has a component, taken apart at its slashes. -/
theorem toText_toList
    {path : Path}
    (nonempty : path.parts ≠ []) :
    path.toText.toList =
      List.replicate path.rootSlashes '/' ++
        joinBySlashes (path.parts.map String.toList) := by
  unfold toText
  rw [if_neg fun bare => nonempty bare.2, String.toList_ofList]

theorem head?_joinBySlashes
    {names : List String}
    (spelled : ∀ name ∈ names, IsName name) :
    (joinBySlashes (names.map String.toList)).head? ≠ some '/' := by
  cases names with
  | nil =>
      exact nofun
  | cons first rest =>
      obtain ⟨component, whole⟩ := spelled first List.mem_cons_self
      intro same
      have starts : first.toList.head? = some '/' := by
        cases characters : first.toList with
        | nil =>
            rw [characters] at component
            cases component
        | cons character more =>
            cases rest <;> simpa [characters, joinBySlashes] using same
      exact whole (List.mem_of_mem_head? starts)

theorem IsSpelled.splitAtSlashes_toText
    {path : Path}
    (spelled : path.IsSpelled)
    (nonempty : path.parts ≠ []) :
    splitAtSlashes path.toText.toList =
      List.replicate path.rootSlashes [] ++ path.parts.map String.toList := by
  rw [toText_toList nonempty, splitAtSlashes_slashes, split_joinBySlashes]
  · intro stretch found
    obtain ⟨part, held, rfl⟩ := List.mem_map.mp found
    exact (spelled.parts part held).2
  · exact fun empty => nonempty (List.map_eq_nil_iff.mp empty)

/-- A path that some text spells is read again from its own text. -/
theorem IsSpelled.ofText_toText
    {path : Path}
    (spelled : path.IsSpelled) :
    ofText path.toText = path := by
  by_cases nonempty : path.parts = []
  · obtain ⟨root, parts⟩ := path
    have few := spelled.root
    subst nonempty
    dsimp only at few
    interval_cases root <;> rfl
  · have kept :
        (List.replicate path.rootSlashes [] ++ path.parts.map String.toList).filter
            isComponent =
          path.parts.map String.toList := by
      rw [List.filter_append, List.filter_eq_nil_iff.mpr, List.nil_append,
        List.filter_eq_self.mpr]
      · intro stretch found
        obtain ⟨part, held, rfl⟩ := List.mem_map.mp found
        exact (spelled.parts part held).1
      · intro stretch found
        rw [List.eq_of_mem_replicate found]
        decide
    unfold ofText
    rw [spelled.splitAtSlashes_toText nonempty, kept, toText_toList nonempty,
      rootOf_slashes spelled.root (head?_joinBySlashes spelled.parts), List.map_map]
    simp only [Function.comp_def, String.ofList_toList, List.map_id']

theorem IsSpelled.namesEntry_toText
    {path : Path}
    (spelled : path.IsSpelled)
    (nonempty : path.parts ≠ []) :
    namesEntry path.toText = true := by
  obtain ⟨above, last, same⟩ : ∃ above last, path.parts = above ++ [last] :=
    ⟨_, _, (List.dropLast_append_getLast nonempty).symm⟩
  have component := (spelled.parts last (by rw [same]; simp)).1
  unfold namesEntry
  rw [spelled.splitAtSlashes_toText nonempty, same, List.map_append, ← List.append_assoc]
  simpa using component

theorem mem_joinBySlashes
    {stretches : List (List Char)}
    {character : Char}
    (shown : character ∈ joinBySlashes stretches) :
    character = '/' ∨ ∃ stretch ∈ stretches, character ∈ stretch := by
  fun_induction joinBySlashes stretches with
  | case1 =>
      cases shown
  | case2 last =>
      exact .inr ⟨last, List.mem_singleton_self last, shown⟩
  | case3 first rest nonempty inductionHypothesis =>
      rcases List.mem_append.mp shown with here | later
      · exact .inr ⟨first, List.mem_cons_self, here⟩
      · rcases List.mem_cons.mp later with slash | behind
        · exact .inl slash
        · rcases inductionHypothesis behind with slash | ⟨stretch, held, within⟩
          · exact .inl slash
          · exact .inr ⟨stretch, List.mem_cons_of_mem _ held, within⟩

/-- A path is shown by the characters of its components, slashes and dots. -/
theorem mem_toText
    {path : Path}
    {character : Char}
    (shown : character ∈ path.toText.toList) :
    character = '/' ∨ character = '.' ∨ ∃ part ∈ path.parts, character ∈ part.toList := by
  unfold toText at shown
  split at shown
  · exact .inr (.inl (List.mem_singleton.mp shown))
  · rw [String.toList_ofList] at shown
    rcases List.mem_append.mp shown with slash | within
    · exact .inl (List.eq_of_mem_replicate slash)
    · rcases mem_joinBySlashes within with slash | ⟨stretch, held, inside⟩
      · exact .inl slash
      · obtain ⟨part, found, rfl⟩ := List.mem_map.mp held
        exact .inr (.inr ⟨part, found, inside⟩)

/-- Whether a path can be handed to the system: no component has a null character. -/
def IsPlain (path : Path) : Prop :=
  ∀ part ∈ path.parts, '\x00' ∉ part.toList

theorem IsPlain.toText
    {path : Path}
    (plain : path.IsPlain) :
    '\x00' ∉ path.toText.toList := by
  intro shown
  rcases mem_toText shown with slash | dot | ⟨part, held, within⟩
  · cases slash
  · cases dot
  · exact plain part held within

theorem isPlain_ofText
    {text : String}
    (free : '\x00' ∉ text.toList) :
    (ofText text).IsPlain := by
  intro part held within
  obtain ⟨stretch, kept, rfl⟩ := List.mem_map.mp held
  rw [String.toList_ofList] at within
  exact free (of_mem_stretch _ stretch (List.mem_filter.mp kept).1 _ within).1

theorem IsPlain.child
    {path : Path}
    {entry : String}
    (plain : path.IsPlain)
    (free : '\x00' ∉ entry.toList) :
    (path.child entry).IsPlain := by
  intro part held
  rcases List.mem_append.mp held with above | last
  · exact plain part above
  · rw [List.mem_singleton.mp last]
    exact free

end Path

end Brainfuck.File
