import Brainfuck.Loop.Nesting
import Mathlib.Data.Nat.Init
import Mathlib.Tactic.ByContra

namespace Brainfuck

/-!
# Depths and loops

Each word changes the nesting depth by one at most: an opening bracket raises
it, a closing one lowers it, and no other word moves it.  A loop is therefore
the stretch over which the depth stays above its level at the opening bracket.
This determines either end of a loop by the other, and two loops never cross.
-/

namespace Opcode

theorem ofWord?_eq_some_iff
    {word : Int32}
    {opcode : Opcode} :
    ofWord? word = some opcode ↔ word = opcode.word := by
  constructor
  · intro read
    unfold ofWord? at read
    repeat'
      split at read
    all_goals
      cases read
      try assumption
  · rintro rfl
    exact ofWord?_word opcode

end Opcode

@[simp]
theorem nesting_append (first second : List Int32) :
    nesting (first ++ second) = nesting first + nesting second := by
  induction first with
  | nil =>
      simp [nesting]
  | cons word rest inductionHypothesis =>
      simp only [List.cons_append, nesting, inductionHypothesis]
      omega

/-- The nesting of a sequence counts its opening brackets against its closing ones. -/
theorem nesting_eq_count_sub_count (words : List Int32) :
    nesting words =
      (words.count Opcode.loopOpen.word : Int) - words.count Opcode.loopClose.word := by
  induction words with
  | nil =>
      rfl
  | cons word rest inductionHypothesis =>
      simp only [nesting, nestingStep, inductionHypothesis, List.count_cons, beq_iff_eq]
      by_cases opens : word = Opcode.loopOpen.word
      · subst opens
        have notClosing : Opcode.loopOpen.word ≠ Opcode.loopClose.word := by decide
        simp only [↓reduceIte, notClosing]
        omega
      · by_cases closes : word = Opcode.loopClose.word
        · subst closes
          simp only [opens, ↓reduceIte]
          omega
        · simp only [opens, closes, ↓reduceIte]
          omega

namespace Program

variable {program : Program}

theorem opcodeAt?_of_lt
    {address : Nat}
    (inside : address < program.size) :
    program.opcodeAt? address = Opcode.ofWord? program.words[address] := by
  have found : program.words[address]? = some program.words[address] :=
    Array.getElem?_eq_getElem inside
  simp [opcodeAt?, wordAt?, found]

theorem opcodeAt?_of_le
    {address : Nat}
    (outside : program.size ≤ address) :
    program.opcodeAt? address = none := by
  have missing : program.words[address]? = none :=
    Array.getElem?_eq_none outside
  simp [opcodeAt?, wordAt?, missing]

theorem lt_size_of_opcodeAt?
    {address : Nat}
    {opcode : Opcode}
    (found : program.opcodeAt? address = some opcode) :
    address < program.size := by
  by_contra outside
  rw [opcodeAt?_of_le (Nat.le_of_not_lt outside)] at found
  cases found

theorem HasBracket.lt_size
    {address : Nat}
    (bracket : program.HasBracket address) :
    address < program.size :=
  bracket.elim lt_size_of_opcodeAt? lt_size_of_opcodeAt?

@[simp]
theorem depth_zero : program.depth 0 = 0 := by
  simp [depth, nesting]

theorem depth_succ
    {address : Nat}
    (inside : address < program.size) :
    program.depth (address + 1) =
      program.depth address + nestingStep program.words[address] := by
  have longer :
      program.words.toList.take (address + 1) =
        program.words.toList.take address ++ [program.words[address]] := by
    exact List.take_succ_eq_append_getElem inside
  simp [depth, longer, nesting]

theorem depth_succ_of_open
    {address : Nat}
    (opens : program.opcodeAt? address = some .loopOpen) :
    program.depth (address + 1) = program.depth address + 1 := by
  have inside := lt_size_of_opcodeAt? opens
  rw [opcodeAt?_of_lt inside, Opcode.ofWord?_eq_some_iff] at opens
  rw [depth_succ inside, opens]
  rfl

theorem depth_succ_of_close
    {address : Nat}
    (closes : program.opcodeAt? address = some .loopClose) :
    program.depth (address + 1) = program.depth address - 1 := by
  have inside := lt_size_of_opcodeAt? closes
  rw [opcodeAt?_of_lt inside, Opcode.ofWord?_eq_some_iff] at closes
  rw [depth_succ inside, closes]
  rfl

theorem depth_succ_of_not_hasBracket
    {address : Nat}
    (plain : ¬ program.HasBracket address) :
    program.depth (address + 1) = program.depth address := by
  by_cases inside : address < program.size
  · have notOpening : program.words[address] ≠ Opcode.loopOpen.word := by
      intro same
      exact plain (.inl (by
        rw [opcodeAt?_of_lt inside, Opcode.ofWord?_eq_some_iff]
        exact same))
    have notClosing : program.words[address] ≠ Opcode.loopClose.word := by
      intro same
      exact plain (.inr (by
        rw [opcodeAt?_of_lt inside, Opcode.ofWord?_eq_some_iff]
        exact same))
    simp [depth_succ inside, nestingStep, notOpening, notClosing]
  · have short : program.words.toList.length ≤ address := by
      simpa [size] using inside
    simp only [depth, List.take_of_length_le short,
      List.take_of_length_le (Nat.le_succ_of_le short)]

/-- The depth falls by one at most from one address to the next. -/
theorem depth_le_depth_succ (address : Nat) :
    program.depth address - 1 ≤ program.depth (address + 1) := by
  by_cases bracket : program.HasBracket address
  · rcases bracket with opens | closes
    · have higher := depth_succ_of_open opens
      omega
    · have lower := depth_succ_of_close closes
      omega
  · have level := depth_succ_of_not_hasBracket bracket
    omega

/-- The depth only falls behind a closing bracket. -/
theorem closes_of_depth_succ_lt
    {address : Nat}
    (falls : program.depth (address + 1) < program.depth address) :
    program.opcodeAt? address = some .loopClose := by
  by_cases bracket : program.HasBracket address
  · rcases bracket with opens | closes
    · rw [depth_succ_of_open opens] at falls
      omega
    · exact closes
  · rw [depth_succ_of_not_hasBracket bracket] at falls
    omega

namespace IsLoop

variable {first last : Nat}

/-- A loop is deeper inside than in front of it. -/
theorem deeper
    (loop : program.IsLoop first last)
    {address : Nat}
    (behindFirst : first < address)
    (upToLast : address ≤ last) :
    program.depth first < program.depth address := by
  induction address, behindFirst using Nat.le_induction with
  | base =>
      rw [depth_succ_of_open loop.opens]
      omega
  | succ address behindFirst inductionHypothesis =>
      have above := inductionHypothesis (Nat.le_of_succ_le upToLast)
      have fallsSlowly := program.depth_le_depth_succ address
      have notBack := loop.earliest address behindFirst upToLast
      omega

/-- A stretch that is deeper than in front of it up to its end is a loop. -/
theorem of_deeper
    (opens : program.opcodeAt? first = some .loopOpen)
    (ordered : first < last)
    (closes : program.depth (last + 1) = program.depth first)
    (above : ∀ address, first < address → address ≤ last →
      program.depth first < program.depth address) :
    program.IsLoop first last where
  opens := opens
  ordered := ordered
  closes := closes
  earliest between behindFirst beforeLast :=
    Int.ne_of_gt (above (between + 1) (Nat.lt_succ_of_lt behindFirst) beforeLast)

theorem closing (loop : program.IsLoop first last) :
    program.opcodeAt? last = some .loopClose := by
  apply closes_of_depth_succ_lt
  rw [loop.closes]
  exact loop.deeper loop.ordered (Nat.le_refl last)

theorem last_lt_size (loop : program.IsLoop first last) :
    last < program.size :=
  lt_size_of_opcodeAt? loop.closing

/-- An opening bracket begins one loop at most. -/
theorem last_unique
    {other : Nat}
    (loop : program.IsLoop first last)
    (same : program.IsLoop first other) :
    last = other := by
  rcases Nat.lt_trichotomy last other with before | equal | behind
  · have above := same.deeper (Nat.lt_succ_of_lt loop.ordered) before
    rw [loop.closes] at above
    omega
  · exact equal
  · have above := loop.deeper (Nat.lt_succ_of_lt same.ordered) behind
    rw [same.closes] at above
    omega

/-- Of two loops, the one that begins later ends earlier or begins behind the other. -/
theorem disjoint_or_nested
    {innerFirst innerLast : Nat}
    (loop : program.IsLoop first last)
    (inner : program.IsLoop innerFirst innerLast)
    (later : first < innerFirst) :
    last < innerFirst ∨ innerLast < last := by
  by_contra crossing
  have begins : innerFirst ≤ last := by omega
  have ends : last ≤ innerLast := by omega
  have outerBelow := loop.deeper later begins
  rcases Nat.eq_or_lt_of_le ends with same | beyond
  · have closes := inner.closes
    rw [← same, loop.closes] at closes
    omega
  · have innerBelow := inner.deeper (Nat.lt_succ_of_le begins) beyond
    rw [loop.closes] at innerBelow
    omega

end IsLoop

end Program

end Brainfuck
