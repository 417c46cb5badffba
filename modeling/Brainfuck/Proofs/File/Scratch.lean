import Brainfuck.File.Store
import Mathlib.Data.List.Basic

namespace Brainfuck.File.Store

/-!
# Stores with the same files

Making directories where nothing is changes no file, and neither does putting a
directory tree back in the place where it was.  A temporary directory therefore
leaves all files of a store as they were.
-/

/-- Whether two stores hold the same files at the same locations, whatever directories they have. -/
def SameFiles
    (one other : Store) :
    Prop :=
  ∀ location node, node ≠ .directory →
    (one.nodeAt? location = some node ↔ other.nodeAt? location = some node)

variable
  {store older : Store}
  {location other : Location}

theorem SameFiles.refl (store : Store) : store.SameFiles store :=
  fun _ _ _ => Iff.rfl

theorem SameFiles.trans
    {third : Store}
    (first : store.SameFiles older)
    (second : older.SameFiles third) :
    store.SameFiles third :=
  fun location node isFile => (first location node isFile).trans (second location node isFile)

/-- What is found under a key that is kept does not depend on entries that are left out. -/
theorem lookup_filter
    (keep : Location → Bool)
    (entries : List (Location × Node))
    (location : Location) :
    (entries.filter fun entry => keep entry.1).lookup location =
      if keep location then entries.lookup location else none := by
  induction entries with
  | nil =>
      simp only [List.filter_nil, List.lookup_nil, ite_self]
  | cons entry rest inductionHypothesis =>
      obtain ⟨key, node⟩ := entry
      rw [List.filter_cons, List.lookup_cons]
      by_cases same : location = key
      · subst same
        simp only [beq_self_eq_true]
        split
        · rw [List.lookup_cons_self]
        · next dropped =>
            rw [inductionHypothesis]
            simp only [dropped, Bool.false_eq_true, ↓reduceIte]
      · have different : (location == key) = false := beq_eq_false_iff_ne.mpr same
        simp only [different]
        split
        · rw [List.lookup_cons, different, inductionHypothesis]
        · exact inductionHypothesis

theorem nodeAt?_insert_of_ne
    (store : Store)
    (node : Node)
    (different : other ≠ location) :
    (store.insert location node).nodeAt? other = store.nodeAt? other := by
  have kept : (other != location) = true := bne_iff_ne.mpr different
  unfold nodeAt? insert
  rw [List.lookup_append, lookup_filter fun key => key != location, List.lookup_cons,
    beq_eq_false_iff_ne.mpr different]
  simp only [kept, ↓reduceIte, List.lookup_nil, Option.or_none]

theorem nodeAt?_insert_directory (store : Store) :
    (store.insert location .directory).nodeAt? location = some .directory := by
  have left : (location != location) = false := bne_self_eq_false _
  unfold nodeAt? insert
  rw [List.lookup_append, lookup_filter fun key => key != location, List.lookup_cons_self]
  simp only [left, Bool.false_eq_true, ↓reduceIte, Option.none_or, ite_self]

/-- A directory where nothing was changes no file. -/
theorem sameFiles_insert_directory (vacant : store.nodeAt? location = none) :
    (store.insert location .directory).SameFiles store := by
  intro other node isFile
  by_cases same : other = location
  · rw [same, nodeAt?_insert_directory, vacant, Option.some.injEq]
    exact ⟨fun made => absurd made.symm isFile, fun found => nomatch found⟩
  · rw [nodeAt?_insert_of_ne store .directory same]

/-- What directories preserve that are made where nothing was, making a whole path preserves. -/
theorem makeDirectories_induction
    (holds : Store → Prop)
    (initially : holds store)
    (step : ∀ made above, holds made → made.nodeAt? above = none →
      holds (made.insert above .directory))
    (location : Location) :
    holds (store.makeDirectories location) := by
  unfold makeDirectories
  generalize List.range location.length = depths
  generalize store = made at initially
  induction depths generalizing made with
  | nil =>
      exact initially
  | cons depth rest inductionHypothesis =>
      rw [List.foldl_cons]
      apply inductionHypothesis
      dsimp only
      split
      · exact initially
      · next vacant =>
          exact step made _ initially (Option.not_isSome_iff_eq_none.mp vacant)

theorem sameFiles_makeDirectories
    (store : Store)
    (location : Location) :
    (store.makeDirectories location).SameFiles store := by
  refine makeDirectories_induction (SameFiles · store) (.refl store) ?_ location
  intro made above same vacant
  exact (sameFiles_insert_directory vacant).trans same

theorem nodeAt?_restoreTree
    (store older : Store)
    (location other : Location) :
    (store.restoreTree older location).nodeAt? other =
      if location.isPrefixOf other then older.nodeAt? other else store.nodeAt? other := by
  unfold nodeAt? restoreTree
  rw [List.lookup_append, lookup_filter fun key => !location.isPrefixOf key,
    lookup_filter fun key => location.isPrefixOf key]
  cases location.isPrefixOf other <;>
    simp only [Bool.not_false, Bool.not_true, Bool.false_eq_true, ↓reduceIte, Option.or_none,
      Option.none_or]

/-- A tree that is put back changes no file, if none was changed elsewhere. -/
theorem SameFiles.restoreTree
    (same : store.SameFiles older)
    (location : Location) :
    (store.restoreTree older location).SameFiles older := by
  intro other node isFile
  rw [nodeAt?_restoreTree]
  split
  · exact Iff.rfl
  · exact same other node isFile

end Brainfuck.File.Store
