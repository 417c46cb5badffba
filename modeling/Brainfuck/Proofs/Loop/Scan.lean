import Brainfuck.Loop.Resolve
import Brainfuck.Proofs.Loop.Depth

namespace Brainfuck

/-!
# What the scan for loops knows

The scan keeps a stack of open brackets and marks the loops it has closed.
`Matching.Tracks` says how both relate to the depths of the program up to the
address that the scan has reached.  Each word preserves it, so that a scan of a
whole program ends either with every loop marked or at the first closing bracket
without partner.
-/

namespace Program

/--
Whether a list holds opening brackets that are still open at an address, from the
innermost outwards, with no open one left out.
-/
def IsOpenStack
    (program : Program)
    (reached : Nat) :
    List Nat → Prop
  | [] => True
  | first :: outer =>
      program.opcodeAt? first = some .loopOpen ∧
        first < reached ∧
        program.depth first = outer.length ∧
        (∀ address, first < address → address ≤ reached →
          program.depth first < program.depth address) ∧
        program.IsOpenStack reached outer

/-- Open brackets stay open as long as the depth does not fall below their number. -/
theorem IsOpenStack.extend
    {program : Program}
    {reached : Nat}
    {pending : List Nat}
    (stack : program.IsOpenStack reached pending)
    (deep : (pending.length : Int) ≤ program.depth (reached + 1)) :
    program.IsOpenStack (reached + 1) pending := by
  induction pending with
  | nil =>
      trivial
  | cons first outer inductionHypothesis =>
      obtain ⟨opens, behind, height, above, outerStack⟩ := stack
      simp only [List.length_cons, Int.natCast_add] at deep
      refine ⟨opens, Nat.lt_succ_of_lt behind, height, ?_,
        inductionHypothesis outerStack (by omega)⟩
      intro address behindFirst upTo
      rcases Nat.eq_or_lt_of_le upTo with atEnd | before
      · subst atEnd
        omega
      · exact above address behindFirst (Nat.le_of_lt_succ before)

/-- The outermost open bracket stands at depth zero, and the depth stays positive behind it. -/
theorem IsOpenStack.outermost
    {program : Program}
    {reached : Nat}
    {pending : List Nat}
    {address : Nat}
    (stack : program.IsOpenStack reached pending)
    (last : pending.getLast? = some address) :
    program.opcodeAt? address = some .loopOpen ∧
      address < reached ∧
      program.depth address = 0 ∧
      ∀ count, address < count → count ≤ reached → 0 < program.depth count := by
  induction pending with
  | nil =>
      cases last
  | cons first outer inductionHypothesis =>
      obtain ⟨opens, behind, height, above, outerStack⟩ := stack
      cases outer with
      | nil =>
          cases last
          refine ⟨opens, behind, height, ?_⟩
          intro count behindAddress upTo
          have higher := above count behindAddress upTo
          rw [height] at higher
          exact higher
      | cons next further =>
          rw [List.getLast?_cons_cons] at last
          exact inductionHypothesis outerStack last

end Program

namespace Matching

/-- Whether two addresses are marked and lead to each other. -/
structure Joins
    (matching : Matching)
    (first : Nat)
    (second : Nat) :
    Prop where
  firstMarked : matching.domain[first]? = some true
  secondMarked : matching.domain[second]? = some true
  forth : matching.targets[first]? = some (second : Int)
  back : matching.targets[second]? = some (first : Int)

theorem Joins.symm
    {matching : Matching}
    {first second : Nat}
    (joins : matching.Joins first second) :
    matching.Joins second first :=
  ⟨joins.secondMarked, joins.firstMarked, joins.back, joins.forth⟩

/--
What a matching says about the brackets in front of an address: those still open
are pending, all others are marked and lead to their partners.
-/
structure Tracks
    (program : Program)
    (reached : Nat)
    (matching : Matching) :
    Prop where
  targetsSize : matching.targets.size = program.size
  domainSize : matching.domain.size = program.size
  nonnegative : ∀ count, count ≤ reached → 0 ≤ program.depth count
  height : program.depth reached = matching.pending.length
  stack : program.IsOpenStack reached matching.pending
  partner : ∀ address : Nat, matching.domain[address]? = some true →
    ∃ other : Nat, matching.Joins address other ∧ address < reached ∧ other < reached ∧
      (program.IsLoop address other ∨ program.IsLoop other address)
  identity : ∀ address : Nat, matching.domain[address]? = some false →
    matching.targets[address]? = some (address : Int)
  covered : ∀ address : Nat, address < reached → program.HasBracket address →
    address ∈ matching.pending ∨ matching.domain[address]? = some true

theorem tracks_start (program : Program) :
    Tracks program 0 (start program.size) where
  targetsSize := by simp [start]
  domainSize := by simp [start]
  nonnegative count upTo := by
    cases Nat.le_zero.mp upTo
    simp
  height := by simp [start]
  stack := trivial
  partner address marked := by
    simp [start, Array.getElem?_replicate] at marked
  identity address unmarked := by
    have inside : address < program.size := by
      by_contra outside
      simp [start, outside] at unmarked
    simp [start, inside]
  covered address below := absurd below (Nat.not_lt_zero address)

variable
  {program : Program}
  {reached : Nat}
  {matching : Matching}

/-- Marks and targets need not be looked at again when neither of them changes. -/
theorem Tracks.grow
    (tracks : Tracks program reached matching)
    {pending : List Nat}
    (nonnegative : 0 ≤ program.depth (reached + 1))
    (height : program.depth (reached + 1) = pending.length)
    (stack : program.IsOpenStack (reached + 1) pending)
    (kept : ∀ address, address ∈ matching.pending → address ∈ pending)
    (here : program.HasBracket reached → reached ∈ pending) :
    Tracks program (reached + 1) { matching with pending } where
  targetsSize := tracks.targetsSize
  domainSize := tracks.domainSize
  nonnegative count upTo := by
    rcases Nat.eq_or_lt_of_le upTo with atEnd | before
    · rw [atEnd]
      exact nonnegative
    · exact tracks.nonnegative count (Nat.le_of_lt_succ before)
  height := height
  stack := stack
  partner address marked := by
    obtain ⟨other, joins, below, otherBelow, loop⟩ := tracks.partner address marked
    exact ⟨other, ⟨joins.firstMarked, joins.secondMarked, joins.forth, joins.back⟩,
      Nat.lt_succ_of_lt below, Nat.lt_succ_of_lt otherBelow, loop⟩
  identity := tracks.identity
  covered address below bracket := by
    rcases Nat.eq_or_lt_of_le (Nat.le_of_lt_succ below) with atEnd | before
    · subst atEnd
      exact .inl (here bracket)
    · rcases tracks.covered address before bracket with open_ | marked
      · exact .inl (kept address open_)
      · exact .inr marked

theorem Tracks.skip
    (tracks : Tracks program reached matching)
    (plain : ¬ program.HasBracket reached) :
    Tracks program (reached + 1) matching := by
  have level := Program.depth_succ_of_not_hasBracket plain
  have height : program.depth (reached + 1) = matching.pending.length :=
    level.trans tracks.height
  exact tracks.grow (by omega) height (tracks.stack.extend (by omega))
    (fun _ member => member) (fun bracket => absurd bracket plain)

/-- An opening bracket becomes the innermost of the open ones. -/
theorem Tracks.push
    (tracks : Tracks program reached matching)
    (opens : program.opcodeAt? reached = some .loopOpen) :
    Tracks program (reached + 1) (matching.push reached) := by
  have rises := Program.depth_succ_of_open opens
  have height := tracks.height
  apply tracks.grow
  · omega
  · simp only [List.length_cons, Int.natCast_add]
    omega
  · refine ⟨opens, Nat.lt_succ_self reached, height, ?_, tracks.stack.extend (by omega)⟩
    intro address behind upTo
    have atEnd : address = reached + 1 := by omega
    rw [atEnd]
    omega
  · intro address member
    exact List.mem_cons_of_mem reached member
  · intro _
    exact List.mem_cons_self

/-- A closing bracket and the innermost open one are the two ends of a loop. -/
theorem Tracks.isLoop_of_pending
    {first : Nat}
    {outer : List Nat}
    (tracks : Tracks program reached matching)
    (closes : program.opcodeAt? reached = some .loopClose)
    (pending : matching.pending = first :: outer) :
    program.IsLoop first reached := by
  have stack := tracks.stack
  have height := tracks.height
  rw [pending] at stack height
  obtain ⟨opens, behind, firstHeight, above, _⟩ := stack
  have falls := Program.depth_succ_of_close closes
  simp only [List.length_cons, Int.natCast_add] at height
  exact .of_deeper opens behind (by omega) above

theorem Tracks.unmarked_of_pending
    {first : Nat}
    {outer : List Nat}
    (tracks : Tracks program reached matching)
    (pending : matching.pending = first :: outer) :
    matching.domain[first]? ≠ some true := by
  intro marked
  have stack := tracks.stack
  rw [pending] at stack
  obtain ⟨opens, _, _, above, _⟩ := stack
  obtain ⟨other, _, _, otherBelow, forward | backward⟩ := tracks.partner first marked
  · have deeper := above (other + 1) (Nat.lt_succ_of_lt forward.ordered) otherBelow
    rw [forward.closes] at deeper
    omega
  · have closes := backward.closing
    rw [opens] at closes
    cases closes

theorem joins_pair
    {first last : Nat}
    {outer : List Nat}
    (ordered : first < last)
    (insideTargets : last < matching.targets.size)
    (insideDomain : last < matching.domain.size) :
    (matching.pair first last outer).Joins first last := by
  have firstInTargets : first < matching.targets.size := by omega
  have firstInDomain : first < matching.domain.size := by omega
  have apart : last ≠ first := by omega
  constructor <;>
    simp [pair, apart, insideTargets, insideDomain,
      firstInTargets, firstInDomain]

theorem domain_pair_of_ne
    {first last address : Nat}
    {outer : List Nat}
    (notFirst : address ≠ first)
    (notLast : address ≠ last) :
    (matching.pair first last outer).domain[address]? = matching.domain[address]? := by
  simp [pair, notFirst.symm, notLast.symm]

theorem targets_pair_of_ne
    {first last address : Nat}
    {outer : List Nat}
    (notFirst : address ≠ first)
    (notLast : address ≠ last) :
    (matching.pair first last outer).targets[address]? = matching.targets[address]? := by
  simp [pair, notFirst.symm, notLast.symm]

/-- A new pair leaves earlier ones alone. -/
theorem Joins.pair
    {first last one other : Nat}
    {outer : List Nat}
    (joins : matching.Joins one other)
    (oneApart : one ≠ first ∧ one ≠ last)
    (otherApart : other ≠ first ∧ other ≠ last) :
    (matching.pair first last outer).Joins one other where
  firstMarked := (domain_pair_of_ne oneApart.1 oneApart.2).trans joins.firstMarked
  secondMarked := (domain_pair_of_ne otherApart.1 otherApart.2).trans joins.secondMarked
  forth := (targets_pair_of_ne oneApart.1 oneApart.2).trans joins.forth
  back := (targets_pair_of_ne otherApart.1 otherApart.2).trans joins.back

/-- A closing bracket is joined with the innermost open one. -/
theorem Tracks.pair
    {first : Nat}
    {outer : List Nat}
    (tracks : Tracks program reached matching)
    (closes : program.opcodeAt? reached = some .loopClose)
    (pending : matching.pending = first :: outer) :
    Tracks program (reached + 1) (matching.pair first reached outer) := by
  have loop := tracks.isLoop_of_pending closes pending
  have falls := Program.depth_succ_of_close closes
  have height := tracks.height
  have stack := tracks.stack
  rw [pending] at stack height
  simp only [List.length_cons, Int.natCast_add] at height
  obtain ⟨_, behind, _, _, outerStack⟩ := stack
  have inside := Program.lt_size_of_opcodeAt? closes
  have joins : (matching.pair first reached outer).Joins first reached :=
    joins_pair behind (by rw [tracks.targetsSize]; exact inside)
      (by rw [tracks.domainSize]; exact inside)
  -- An address that was marked before is neither end of the new loop.
  have apart : ∀ address : Nat, address < reached →
      matching.domain[address]? = some true → address ≠ first ∧ address ≠ reached := by
    intro address below marked
    refine ⟨?_, Nat.ne_of_lt below⟩
    rintro rfl
    exact tracks.unmarked_of_pending pending marked
  constructor
  case targetsSize => simpa [Matching.pair] using tracks.targetsSize
  case domainSize => simpa [Matching.pair] using tracks.domainSize
  case nonnegative =>
    intro count upTo
    rcases Nat.eq_or_lt_of_le upTo with atEnd | before
    · rw [atEnd]
      omega
    · exact tracks.nonnegative count (Nat.le_of_lt_succ before)
  case height =>
    simp only [Matching.pair]
    omega
  case stack => exact outerStack.extend (by omega)
  case partner =>
    intro address marked
    by_cases atFirst : address = first
    · subst atFirst
      exact ⟨reached, joins, Nat.lt_succ_of_lt behind, Nat.lt_succ_self reached, .inl loop⟩
    · by_cases atLast : address = reached
      · subst atLast
        exact ⟨first, joins.symm, Nat.lt_succ_self _, Nat.lt_succ_of_lt behind, .inr loop⟩
      · rw [domain_pair_of_ne atFirst atLast] at marked
        obtain ⟨other, old, below, otherBelow, oldLoop⟩ := tracks.partner address marked
        exact ⟨other,
          old.pair (apart address below marked) (apart other otherBelow old.secondMarked),
          Nat.lt_succ_of_lt below, Nat.lt_succ_of_lt otherBelow, oldLoop⟩
  case identity =>
    intro address unmarked
    have notFirst : address ≠ first := by
      rintro rfl
      rw [joins.firstMarked] at unmarked
      cases unmarked
    have notLast : address ≠ reached := by
      rintro rfl
      rw [joins.secondMarked] at unmarked
      cases unmarked
    rw [domain_pair_of_ne notFirst notLast] at unmarked
    rw [targets_pair_of_ne notFirst notLast]
    exact tracks.identity address unmarked
  case covered =>
    intro address below bracket
    by_cases atFirst : address = first
    · subst atFirst
      exact .inr joins.firstMarked
    · by_cases atLast : address = reached
      · subst atLast
        exact .inr joins.secondMarked
      · have before : address < reached := by omega
        rw [domain_pair_of_ne atFirst atLast]
        rcases tracks.covered address before bracket with member | marked
        · rw [pending] at member
          rcases List.mem_cons.mp member with isFirst | inOuter
          · exact absurd isFirst atFirst
          · exact .inl inOuter
        · exact .inr marked

/-- A closing bracket with no open one in front of it is the first stray one. -/
theorem Tracks.isStrayClose
    (tracks : Tracks program reached matching)
    (closes : program.opcodeAt? reached = some .loopClose)
    (pending : matching.pending = []) :
    program.IsStrayClose reached where
  inside := Program.lt_size_of_opcodeAt? closes
  negative := by
    have height := tracks.height
    rw [pending] at height
    rw [Program.depth_succ_of_close closes, height]
    decide
  earliest := tracks.nonnegative

theorem scan_cons_of_plain
    {word : Int32}
    {rest : List Int32}
    (notOpening : Opcode.ofWord? word ≠ some .loopOpen)
    (notClosing : Opcode.ofWord? word ≠ some .loopClose) :
    scan (word :: rest) reached matching = scan rest (reached + 1) matching := by
  rw [scan]
  split
  · contradiction
  · contradiction
  · rfl

/--
A scan either reaches the end, where it knows the whole program, or stops at the
first stray closing bracket.
-/
theorem scan_spec
    {words : List Int32}
    (remaining : program.words.toList.drop reached = words)
    (tracks : Tracks program reached matching)
    (within : reached ≤ program.size) :
    match scan words reached matching with
    | .ok final => Tracks program program.size final
    | .error stray => program.IsStrayClose stray := by
  induction words generalizing reached matching with
  | nil =>
      have past : program.size ≤ reached := List.drop_eq_nil_iff.mp remaining
      have atEnd : reached = program.size := Nat.le_antisymm within past
      subst atEnd
      exact tracks
  | cons word rest inductionHypothesis =>
      have inside : reached < program.size := by
        by_contra outside
        rw [List.drop_of_length_le (Nat.le_of_not_lt outside)] at remaining
        cases remaining
      rw [List.drop_eq_getElem_cons inside] at remaining
      obtain ⟨here, behind⟩ := List.cons.inj remaining
      have found : program.opcodeAt? reached = Opcode.ofWord? word := by
        rw [Program.opcodeAt?_of_lt inside]
        exact congrArg Opcode.ofWord? here
      by_cases opens : Opcode.ofWord? word = some .loopOpen
      · have pushed :
            scan (word :: rest) reached matching =
              scan rest (reached + 1) (matching.push reached) := by
          simp only [scan, opens]
        rw [pushed]
        exact inductionHypothesis behind (tracks.push (found.trans opens)) inside
      · by_cases closes : Opcode.ofWord? word = some .loopClose
        · cases pending : matching.pending with
          | nil =>
              have stopped : scan (word :: rest) reached matching = .error reached := by
                simp only [scan, closes, pending]
              rw [stopped]
              exact tracks.isStrayClose (found.trans closes) pending
          | cons first outer =>
              have paired :
                  scan (word :: rest) reached matching =
                    scan rest (reached + 1) (matching.pair first reached outer) := by
                simp only [scan, closes, pending]
              rw [paired]
              exact inductionHypothesis behind
                (tracks.pair (found.trans closes) pending) inside
        · rw [scan_cons_of_plain opens closes]
          apply inductionHypothesis behind _ inside
          apply tracks.skip
          rintro (isOpen | isClose)
          · exact opens (found.symm.trans isOpen)
          · exact closes (found.symm.trans isClose)

end Matching

namespace Program

/--
Resolving the loops of a program ends in one of three ways: every bracket has a
partner, there is a stray closing bracket, or an opening bracket is left open.
-/
theorem resolveLoops_cases (program : Program) :
    (∃ final : Matching,
      Matching.Tracks program program.size final ∧
        final.pending = [] ∧
        program.resolveLoops = .ok ⟨final.targets, final.domain⟩) ∨
    (∃ address,
      program.IsStrayClose address ∧
        program.resolveLoops = .error (program.loopFailure .missingOpen address)) ∨
    (∃ final : Matching, ∃ address,
      Matching.Tracks program program.size final ∧
        final.pending.getLast? = some address ∧
        program.resolveLoops = .error (program.loopFailure .missingClose address)) := by
  have spec := Matching.scan_spec (List.drop_zero (l := program.words.toList))
    (Matching.tracks_start program) (Nat.zero_le program.size)
  cases scanned :
      Matching.scan program.words.toList 0 (Matching.start program.size) with
  | error address =>
      simp only [scanned] at spec
      exact .inr (.inl ⟨address, spec, by simp only [resolveLoops, scanned]⟩)
  | ok final =>
      simp only [scanned] at spec
      cases outermost : final.pending.getLast? with
      | none =>
          refine .inl ⟨final, spec, List.getLast?_eq_none_iff.mp outermost, ?_⟩
          simp only [resolveLoops, scanned, outermost]
      | some address =>
          refine .inr (.inr ⟨final, address, spec, outermost, ?_⟩)
          simp only [resolveLoops, scanned, outermost]

end Program

end Brainfuck
