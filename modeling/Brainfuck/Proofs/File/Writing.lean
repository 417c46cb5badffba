import Brainfuck.Proofs.File.Naming
import Brainfuck.Proofs.File.Scratch

namespace Brainfuck.File.Store

/-!
# Writing files

What is written to a file is read from it again: the directories on the way to
the file are none of what the writing changes.  Making directories where nothing
is takes nothing away, so that it may be read afterwards as well.
-/

/-- Whether a store has all that another one has, and the same working directory. -/
structure Extends
    (store older : Store) :
    Prop where
  workingDirectory : store.workingDirectory = older.workingDirectory
  nodes : ∀ location node, older.nodeAt? location = some node →
    store.nodeAt? location = some node

variable
  {store older : Store}
  {location other : Location}
  {path : Path}
  {content : List UInt8}
  {node : Node}

theorem Extends.refl (store : Store) : store.Extends store :=
  ⟨rfl, fun _ _ found => found⟩

theorem Extends.trans
    {third : Store}
    (first : store.Extends older)
    (second : older.Extends third) :
    store.Extends third where
  workingDirectory := first.workingDirectory.trans second.workingDirectory
  nodes location node found := first.nodes location node (second.nodes location node found)

theorem nodeAt?_insert_self
    (store : Store)
    (node : Node)
    (below : location ≠ []) :
    (store.insert location node).nodeAt? location = some node := by
  have left : (location != location) = false := bne_self_eq_false _
  unfold nodeAt? insert
  rw [if_neg below, List.lookup_append, lookup_filter fun key => key != location,
    List.lookup_cons_self]
  simp only [left, Bool.false_eq_true, ↓reduceIte, Option.none_or]

theorem extends_insert
    (vacant : store.nodeAt? location = none)
    (node : Node) :
    (store.insert location node).Extends store where
  workingDirectory := rfl
  nodes other found held := by
    have different : other ≠ location := by
      rintro rfl
      rw [vacant] at held
      cases held
    rw [nodeAt?_insert_of_ne store node different]
    exact held

/-- Making directories takes nothing away. -/
theorem extends_makeDirectories
    (store : Store)
    (location : Location) :
    (store.makeDirectories location).Extends store := by
  refine makeDirectories_induction (Extends · store) (.refl store) ?_ location
  intro made above grown vacant
  exact (extends_insert vacant .directory).trans grown

namespace Extends

/-- Where a path leads to, it leads to still. -/
theorem follow
    {start : Location}
    {names : List String}
    (grown : store.Extends older)
    (led : older.follow start names = .ok location) :
    store.follow start names = .ok location := by
  fun_induction Store.follow older start names with
  | case1 =>
      cases led
      rfl
  | case2 | case3 | case4 | case6 =>
      cases led
  | case5 start rest directory inductionHypothesis =>
      unfold Store.follow
      rw [grown.nodes _ _ directory]
      exact inductionHypothesis led
  | case7 start name rest directory upward long inductionHypothesis =>
      unfold Store.follow
      rw [grown.nodes _ _ directory]
      simp only [upward, long, ↓reduceIte]
      exact inductionHypothesis led

theorem locate
    (grown : store.Extends older)
    (found : older.locate path = .ok location) :
    store.locate path = .ok location := by
  unfold Store.locate Store.origin at *
  rw [grown.workingDirectory]
  split at found
  · cases found
  · next short =>
      rw [if_neg short]
      exact grown.follow found

/-- What can be read can be read still. -/
theorem read
    (grown : store.Extends older)
    (readable : older.read path = .ok content) :
    store.read path = .ok content := by
  unfold Store.read Store.stream at *
  cases found : older.locate path with
  | error problem =>
      rw [found] at readable
      cases readable
  | ok location =>
      rw [found] at readable
      rw [grown.locate found]
      simp only [bind, Except.bind] at readable ⊢
      cases held : older.nodeAt? location with
      | none =>
          rw [held] at readable
          cases readable
      | some node =>
          rw [held] at readable
          rw [grown.nodes _ _ held]
          exact readable

end Extends

/-- A path leads to a location still when something is put there that was no directory. -/
theorem follow_insert
    {start : Location}
    {names : List String}
    (led : store.follow start names = .ok location)
    (closed : store.nodeAt? location ≠ some .directory)
    (node : Node) :
    (store.insert location node).follow start names = .ok location := by
  -- Every location on the way is a directory, so that none of them is the last one.
  have kept {above : Location} (directory : store.nodeAt? above = some .directory) :
      (store.insert location node).nodeAt? above = some .directory := by
    have different : above ≠ location := by
      rintro rfl
      exact closed directory
    rw [nodeAt?_insert_of_ne store node different]
    exact directory
  fun_induction Store.follow store start names with
  | case1 =>
      cases led
      rfl
  | case2 | case3 | case4 | case6 =>
      cases led
  | case5 start rest directory inductionHypothesis =>
      unfold Store.follow
      rw [kept directory]
      exact inductionHypothesis led
  | case7 start name rest directory upward long inductionHypothesis =>
      unfold Store.follow
      rw [kept directory]
      simp only [upward, long, ↓reduceIte]
      exact inductionHypothesis led

theorem locate_insert
    (found : store.locate path = .ok location)
    (closed : store.nodeAt? location ≠ some .directory)
    (node : Node) :
    (store.insert location node).locate path = .ok location := by
  unfold Store.locate at *
  split at found
  · cases found
  · next short =>
      rw [if_neg short]
      exact follow_insert found closed node

/-- A file is written where its path leads to, unless a directory is there. -/
theorem write_eq_ok_iff {written : Store} :
    store.write path content = .ok written ↔
      ∃ location, store.locate path = .ok location ∧
        store.nodeAt? location ≠ some .directory ∧
        written = store.insert location (.file content) := by
  unfold write
  cases found : store.locate path with
  | error problem =>
      constructor
      · intro writes
        cases writes
      · rintro ⟨_, same, _⟩
        cases same
  | ok location =>
      simp only [bind, Except.bind]
      constructor
      · intro writes
        split at writes
        · cases writes
        · next closed =>
            cases writes
            exact ⟨location, rfl, closed, rfl⟩
      · rintro ⟨_, same, closed, rfl⟩
        cases same
        split
        · next directory =>
            exact absurd directory closed
        · rfl

/-- What was written is read again. -/
theorem read_of_write
    {written : Store}
    (writes : store.write path content = .ok written) :
    written.read path = .ok content := by
  obtain ⟨location, found, closed, rfl⟩ := write_eq_ok_iff.mp writes
  have below : location ≠ [] := by
    rintro rfl
    exact closed rfl
  unfold read stream
  rw [locate_insert found closed]
  simp only [bind, Except.bind, nodeAt?_insert_self store _ below]
  rfl

/-- A path without components leads to a directory, so that nothing is written there. -/
theorem parts_ne_nil_of_write
    {written : Store}
    (working : store.nodeAt? store.workingDirectory = some .directory)
    (writes : store.write path content = .ok written) :
    path.parts ≠ [] := by
  intro bare
  obtain ⟨location, found, closed, _⟩ := write_eq_ok_iff.mp writes
  unfold locate at found
  rw [bare] at found
  split at found
  · cases found
  · cases found
    apply closed
    unfold origin
    split
    · exact working
    · rfl

end Brainfuck.File.Store
