import Brainfuck.Proofs.Loop.Matching
import Brainfuck.Proofs.Outcome

namespace Brainfuck

/-!
# The jump table as a mapping

A jump table that matches a program can be looked at in several ways: by its
targets, by membership, by lookup, by its addresses in order, and by its pairs.
All of them describe the loops of the program, and a loop is found by counting
brackets.
-/

namespace Program

/-- How many of the words from one address to another stand for a command. -/
def countBetween
    (program : Program)
    (opcode : Opcode)
    (first : Nat)
    (last : Nat) :
    Nat :=
  ((program.words.toList.take (last + 1)).drop first).count opcode.word

variable {program : Program}

/-- Across a stretch, the depth changes by its opening brackets less its closing ones. -/
theorem depth_sub_depth
    {first last : Nat}
    (ordered : first ≤ last) :
    program.depth (last + 1) - program.depth first =
      (program.countBetween .loopOpen first last : Int) -
        program.countBetween .loopClose first last := by
  have split :
      program.words.toList.take (last + 1) =
        program.words.toList.take first ++
          (program.words.toList.take (last + 1)).drop first := by
    have shorter := List.take_append_drop first (program.words.toList.take (last + 1))
    rw [List.take_take, Nat.min_eq_left (Nat.le_succ_of_le ordered)] at shorter
    exact shorter.symm
  have behind :
      program.depth (last + 1) =
        program.depth first +
          nesting ((program.words.toList.take (last + 1)).drop first) := by
    unfold depth
    rw [← nesting_append, ← split]
  rw [behind, nesting_eq_count_sub_count]
  unfold countBetween
  omega

theorem countBetween_eq_iff
    {first last : Nat}
    (ordered : first ≤ last) :
    program.countBetween .loopOpen first last = program.countBetween .loopClose first last ↔
      program.depth (last + 1) = program.depth first := by
  have change := program.depth_sub_depth ordered
  omega

theorem countOpcode_eq_count (opcode : Opcode) :
    program.countOpcode opcode = program.words.toList.count opcode.word := by
  unfold countOpcode count List.count
  congr 1
  funext word
  rw [Bool.eq_iff_iff, decide_eq_true_iff, beq_iff_eq, Int32.toInt_inj]

theorem IsBalanced.countOpcode_eq (balanced : program.IsBalanced) :
    program.countOpcode .loopOpen = program.countOpcode .loopClose := by
  have whole : program.words.toList.take program.size = program.words.toList :=
    List.take_length
  have level := balanced.level
  rw [depth, whole, nesting_eq_count_sub_count] at level
  rw [countOpcode_eq_count, countOpcode_eq_count]
  omega

end Program

namespace JumpTable

variable
  {program : Program}
  {table : JumpTable}

theorem get_of_not_contains
    {address : Int}
    (missing : ¬ table.contains address = true) :
    table.get address = .error (.noTarget address) := by
  simp only [get, missing, Bool.false_eq_true, ↓reduceIte]

theorem pairwise_addresses (table : JumpTable) :
    table.addresses.Pairwise (· < ·) :=
  List.Pairwise.filter _ List.pairwise_lt_range

theorem mem_addresses_iff
    (table : JumpTable)
    (address : Nat) :
    address ∈ table.addresses ↔ table.contains (address : Int) = true := by
  rw [contains_natCast_iff]
  simp only [addresses, List.mem_filter, List.mem_range, Array.getD_eq_getD_getElem?]
  constructor
  · rintro ⟨inside, marked⟩
    rw [Array.getElem?_eq_getElem inside] at marked ⊢
    exact congrArg some marked
  · intro marked
    obtain ⟨inside, _⟩ := Array.getElem?_eq_some_iff.mp marked
    exact ⟨inside, by rw [marked]; rfl⟩

namespace Matches

/-- An integer belongs to the mapping when it is the address of a bracket. -/
theorem contains_iff_exists
    (matching : table.Matches program)
    (address : Int) :
    table.contains address = true ↔
      ∃ offset : Nat, address = offset ∧ program.HasBracket offset := by
  cases address with
  | ofNat offset =>
      rw [Int.ofNat_eq_natCast, matching.contains_iff]
      constructor
      · intro bracket
        exact ⟨offset, rfl, bracket⟩
      · rintro ⟨same, equal, bracket⟩
        rw [Int.ofNat_inj.mp equal]
        exact bracket
  | negSucc offset =>
      constructor
      · intro contained
        cases contained
      · rintro ⟨same, equal, _⟩
        cases equal

theorem get_first
    {first last : Nat}
    (matching : table.Matches program)
    (loop : program.IsLoop first last) :
    table.get (first : Int) = .ok (last : Int) :=
  get_natCast ((matching.contains_iff first).mpr (.inl loop.opens))
    (matching.forth first last loop)

theorem get_last
    {first last : Nat}
    (matching : table.Matches program)
    (loop : program.IsLoop first last) :
    table.get (last : Int) = .ok (first : Int) :=
  get_natCast ((matching.contains_iff last).mpr (.inr loop.closing))
    (matching.back first last loop)

/-- A lookup that succeeds leads from one end of a loop to the other. -/
theorem isLoop_of_get
    {address target : Int}
    (matching : table.Matches program)
    (found : table.get address = .ok target) :
    ∃ one other : Nat, address = one ∧ target = other ∧
      (program.IsLoop one other ∨ program.IsLoop other one) := by
  by_cases contained : table.contains address = true
  · obtain ⟨one, rfl, bracket⟩ := (matching.contains_iff_exists address).mp contained
    obtain ⟨other, forward | backward⟩ := matching.partner one bracket
    · rw [matching.get_first forward] at found
      cases found
      exact ⟨one, other, rfl, rfl, .inl forward⟩
    · rw [matching.get_last backward] at found
      cases found
      exact ⟨one, other, rfl, rfl, .inr backward⟩
  · rw [get_of_not_contains contained] at found
    cases found

/-- Of the addresses in front of a count, as many belong to the mapping as there are brackets. -/
theorem length_filter_range
    (matching : table.Matches program)
    {count : Nat}
    (within : count ≤ program.size) :
    ((List.range count).filter fun address => table.domain.getD address false).length =
      (program.words.toList.take count).count Opcode.loopOpen.word +
        (program.words.toList.take count).count Opcode.loopClose.word := by
  induction count with
  | zero =>
      simp
  | succ count inductionHypothesis =>
      have marked := matching.contains_iff count
      change table.domain.getD count false = true ↔ _ at marked
      unfold Program.HasBracket at marked
      rw [Program.opcodeAt?_of_lt within, Opcode.ofWord?_eq_some_iff,
        Opcode.ofWord?_eq_some_iff] at marked
      have longer :
          program.words.toList.take (count + 1) =
            program.words.toList.take count ++ [program.words[count]] :=
        List.take_succ_eq_append_getElem within
      have before := inductionHypothesis (Nat.le_of_succ_le within)
      rw [List.range_succ, List.filter_append, List.length_append, before, longer,
        List.count_append, List.count_append]
      have different : Opcode.loopOpen.word ≠ Opcode.loopClose.word := by decide
      by_cases opens : program.words[count] = Opcode.loopOpen.word
      · have isMarked := marked.mpr (.inl opens)
        simp [-Array.getD_eq_getD_getElem?, isMarked, opens, different]
        omega
      · by_cases closes : program.words[count] = Opcode.loopClose.word
        · have isMarked := marked.mpr (.inr closes)
          simp [-Array.getD_eq_getD_getElem?, isMarked, closes, different.symm]
          omega
        · have isUnmarked : table.domain.getD count false = false := by
            rw [Bool.eq_false_iff]
            intro isMarked
            exact (marked.mp isMarked).elim opens closes
          simp [-Array.getD_eq_getD_getElem?, isUnmarked, opens, closes]

/-- A mapping has two addresses for each opening bracket of a balanced program. -/
theorem size_eq
    (matching : table.Matches program)
    (balanced : program.IsBalanced) :
    table.size = 2 * program.countOpcode .loopOpen := by
  have counted := matching.length_filter_range (Nat.le_refl program.size)
  have whole : program.words.toList.take program.size = program.words.toList :=
    List.take_length
  rw [whole, ← Program.countOpcode_eq_count, ← Program.countOpcode_eq_count,
    ← balanced.countOpcode_eq, ← matching.domainSize] at counted
  unfold size addresses
  omega

theorem entry_eq
    {address : Nat}
    (matching : table.Matches program)
    (member : address ∈ table.addresses) :
    table.entry address = .ok (address, table.targets.getD address 0) := by
  have contained := (table.mem_addresses_iff address).mp member
  have inside : address < table.targets.size := by
    rw [matching.targetsSize]
    exact ((matching.contains_iff address).mp contained).lt_size
  have stored : table.targets[address]? = some (table.targets.getD address 0) := by
    rw [Array.getD_eq_getD_getElem?, Array.getElem?_eq_getElem inside]
    rfl
  unfold entry
  rw [get_natCast contained stored]
  rfl

theorem pairs_eq (matching : table.Matches program) :
    table.pairs =
      .ok ((table.addresses.map fun address => (address, table.targets.getD address 0)).filter
        fun entry : Nat × Int => (entry.1 : Int) < entry.2) := by
  have entries := Outcome.mapM_eq_ok fun _ => matching.entry_eq
  unfold pairs JumpTable.entries
  rw [entries]
  rfl

/-- The pairs that lead forward are the loops. -/
theorem mem_pairs_iff
    (matching : table.Matches program)
    (first : Nat)
    (last : Int) :
    (first, last) ∈
        (table.addresses.map fun address => (address, table.targets.getD address 0)).filter
          (fun entry : Nat × Int => (entry.1 : Int) < entry.2) ↔
      ∃ partner : Nat, last = partner ∧ program.IsLoop first partner := by
  simp only [List.mem_filter, List.mem_map, Prod.mk.injEq, decide_eq_true_eq,
    Array.getD_eq_getD_getElem?]
  constructor
  · rintro ⟨⟨address, member, rfl, rfl⟩, forward⟩
    have bracket := (matching.contains_iff address).mp
      ((table.mem_addresses_iff address).mp member)
    obtain ⟨other, loop | backward⟩ := matching.partner address bracket
    · refine ⟨other, ?_, loop⟩
      rw [matching.forth address other loop]
      rfl
    · have ordered := backward.ordered
      rw [matching.back other address backward, Option.getD_some] at forward
      omega
  · rintro ⟨partner, rfl, loop⟩
    have member := (table.mem_addresses_iff first).mpr
      ((matching.contains_iff first).mpr (.inl loop.opens))
    have ordered := loop.ordered
    refine ⟨⟨first, member, rfl, ?_⟩, by omega⟩
    rw [matching.forth first partner loop]
    rfl

end Matches

/--
Whether a table is the nesting matching of a program: as targets, by membership,
by lookup, by its addresses, and by its pairs.
-/
structure IsMatching
    (table : JumpTable)
    (program : Program) :
    Prop where
  /-- The addresses of the mapping are those of the brackets. -/
  contains_iff : ∀ address : Int, table.contains address = true ↔
    ∃ offset : Nat, address = offset ∧ program.HasBracket offset
  /-- An opening bracket leads to the least address up to which brackets are even, and back. -/
  closing : ∀ first : Nat, program.opcodeAt? first = some .loopOpen →
    ∃ last : Nat, first < last ∧
      program.countBetween .loopOpen first last = program.countBetween .loopClose first last ∧
      (∀ between, first < between → between < last →
        program.countBetween .loopOpen first between ≠
          program.countBetween .loopClose first between) ∧
      program.opcodeAt? last = some .loopClose ∧
      table.get first = .ok (last : Int) ∧
      table.get last = .ok (first : Int)
  /-- The mapping is an involution without fixed points. -/
  involution : ∀ address target : Int, table.get address = .ok target →
    table.get target = .ok address ∧ target ≠ address
  /-- Two loops are disjoint, or one lies strictly inside the other. -/
  nested : ∀ first last innerFirst innerLast : Int,
    table.get first = .ok last → first < last →
    table.get innerFirst = .ok innerLast → innerFirst < innerLast →
    first < innerFirst → last < innerFirst ∨ innerLast < last
  /-- There is one target for each address. -/
  targetsSize : table.targets.size = program.size
  /-- An address without bracket is its own target. -/
  identity : ∀ address : Nat, address < program.size → ¬ program.HasBracket address →
    table.targets[address]? = some (address : Int)
  /-- Lookup succeeds on the addresses of the mapping. -/
  lookup : ∀ address : Int,
    (∃ target, table.get address = .ok target) ↔ table.contains address = true
  /-- Lookup fails on any other address. -/
  missing : ∀ address : Int, ¬ table.contains address = true →
    table.get address = .error (.noTarget address)
  /-- Iteration visits the addresses of the mapping. -/
  addresses : ∀ address : Int,
    (∃ offset ∈ table.addresses, address = (offset : Int)) ↔ table.contains address = true
  /-- Iteration increases. -/
  increasing : table.addresses.Pairwise (· < ·)
  /-- The mapping has two addresses for each opening bracket. -/
  size : table.size = 2 * program.countOpcode .loopOpen
  /-- The pairs are the loops, each once, in the order in which they open. -/
  pairs : ∃ loops, table.pairs = .ok loops ∧
    loops.Pairwise (fun one other => one.1 < other.1) ∧
    ∀ (first : Nat) (last : Int), (first, last) ∈ loops ↔
      program.opcodeAt? first = some .loopOpen ∧ table.get first = .ok last

end JumpTable

namespace Program

/-- A resolved jump table is the nesting matching of its program. -/
theorem isMatching_of_resolveLoops
    {program : Program}
    {table : JumpTable}
    (resolved : program.resolveLoops = .ok table) :
    table.IsMatching program := by
  obtain ⟨balanced, matching⟩ := matches_of_resolveLoops resolved
  constructor
  case contains_iff => exact matching.contains_iff_exists
  case closing =>
    intro first opens
    obtain ⟨last, loop | backward⟩ := matching.partner first (.inl opens)
    · have ordered := loop.ordered
      refine ⟨last, ordered, (countBetween_eq_iff (Nat.le_of_lt ordered)).mpr loop.closes, ?_,
        loop.closing, matching.get_first loop, matching.get_last loop⟩
      intro between behind before
      rw [ne_eq, countBetween_eq_iff (Nat.le_of_lt behind)]
      exact loop.earliest between behind before
    · have closes := backward.closing
      rw [opens] at closes
      cases closes
  case involution =>
    intro address target found
    obtain ⟨one, other, rfl, rfl, loop | loop⟩ := matching.isLoop_of_get found
    · have ordered := loop.ordered
      exact ⟨matching.get_last loop, by omega⟩
    · have ordered := loop.ordered
      exact ⟨matching.get_first loop, by omega⟩
  case nested =>
    intro first last innerFirst innerLast found forward innerFound innerForward later
    obtain ⟨one, other, rfl, rfl, loop | backward⟩ := matching.isLoop_of_get found
    · obtain ⟨inner, innerOther, rfl, rfl, innerLoop | innerBackward⟩ :=
        matching.isLoop_of_get innerFound
      · have apart := loop.disjoint_or_nested innerLoop (by omega)
        omega
      · have ordered := innerBackward.ordered
        omega
    · have ordered := backward.ordered
      omega
  case targetsSize => exact matching.targetsSize
  case identity => exact matching.identity
  case lookup =>
    intro address
    constructor
    · rintro ⟨target, found⟩
      by_contra missing
      rw [JumpTable.get_of_not_contains missing] at found
      cases found
    · intro contained
      obtain ⟨one, rfl, bracket⟩ := (matching.contains_iff_exists address).mp contained
      obtain ⟨other, forward | backward⟩ := matching.partner one bracket
      · exact ⟨other, matching.get_first forward⟩
      · exact ⟨other, matching.get_last backward⟩
  case missing =>
    intro address missing
    exact JumpTable.get_of_not_contains missing
  case addresses =>
    intro address
    constructor
    · rintro ⟨offset, member, rfl⟩
      exact (table.mem_addresses_iff offset).mp member
    · intro contained
      obtain ⟨one, rfl, bracket⟩ := (matching.contains_iff_exists address).mp contained
      exact ⟨one, (table.mem_addresses_iff one).mpr contained, rfl⟩
  case increasing => exact table.pairwise_addresses
  case size => exact matching.size_eq balanced
  case pairs =>
    refine ⟨_, matching.pairs_eq, ?_, ?_⟩
    · apply List.Pairwise.filter
      rw [List.pairwise_map]
      exact table.pairwise_addresses
    · intro first last
      rw [matching.mem_pairs_iff]
      constructor
      · rintro ⟨partner, rfl, loop⟩
        exact ⟨loop.opens, matching.get_first loop⟩
      · rintro ⟨opens, found⟩
        obtain ⟨one, other, same, rfl, loop | backward⟩ := matching.isLoop_of_get found
        · rw [Int.ofNat_inj.mp same]
          exact ⟨other, rfl, loop⟩
        · have closes := backward.closing
          rw [← Int.ofNat_inj.mp same, opens] at closes
          cases closes

/-- Two nested loops behind a word that is no bracket. -/
theorem isMatching_nested_loops :
    (ofOpcodes [.increment, .loopOpen, .loopOpen, .loopClose, .loopClose]).resolveLoops =
        .ok ⟨#[0, 4, 3, 2, 1], #[false, true, true, true, true]⟩ ∧
      JumpTable.IsMatching ⟨#[0, 4, 3, 2, 1], #[false, true, true, true, true]⟩
        (ofOpcodes [.increment, .loopOpen, .loopOpen, .loopClose, .loopClose]) := by
  have resolved :
      (ofOpcodes [.increment, .loopOpen, .loopOpen, .loopClose, .loopClose]).resolveLoops =
        .ok ⟨#[0, 4, 3, 2, 1], #[false, true, true, true, true]⟩ := by
    cbv
  exact ⟨resolved, isMatching_of_resolveLoops resolved⟩

end Program

end Brainfuck
