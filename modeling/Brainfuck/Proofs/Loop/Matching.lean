import Brainfuck.Proofs.Loop.Scan

namespace Brainfuck

/-!
# The matching of a program

The jump table of a program is the matching of its brackets.  The addresses of
the mapping are those of the brackets, the two ends of each loop lead to each
other, and every other address is its own target.
-/

namespace JumpTable

/-- Whether a table joins the two ends of each loop of a program and nothing else. -/
structure Matches
    (table : JumpTable)
    (program : Program) :
    Prop where
  targetsSize : table.targets.size = program.size
  domainSize : table.domain.size = program.size
  contains_iff : ∀ address : Nat, table.contains address = true ↔ program.HasBracket address
  partner : ∀ address : Nat, program.HasBracket address →
    ∃ other : Nat, program.IsLoop address other ∨ program.IsLoop other address
  forth : ∀ first last : Nat, program.IsLoop first last →
    table.targets[first]? = some (last : Int)
  back : ∀ first last : Nat, program.IsLoop first last →
    table.targets[last]? = some (first : Int)
  identity : ∀ address : Nat, address < program.size → ¬ program.HasBracket address →
    table.targets[address]? = some (address : Int)

theorem contains_natCast_iff
    (table : JumpTable)
    (address : Nat) :
    table.contains (address : Int) = true ↔ table.domain[address]? = some true := by
  change table.domain.getD address false = true ↔ _
  rw [Array.getD_eq_getD_getElem?]
  cases table.domain[address]? <;> simp

theorem get_natCast
    {table : JumpTable}
    {address : Nat}
    {target : Int}
    (marked : table.contains (address : Int) = true)
    (stored : table.targets[address]? = some target) :
    table.get (address : Int) = .ok target := by
  simp only [get, marked, ↓reduceIte, Int.toNat_natCast, stored]

end JumpTable

namespace Matching

variable
  {program : Program}
  {final : Matching}

/-- Once nothing is pending, the marked addresses are those of the brackets. -/
theorem Tracks.marked_iff
    (tracks : Tracks program program.size final)
    (closed : final.pending = [])
    (address : Nat) :
    final.domain[address]? = some true ↔ program.HasBracket address := by
  constructor
  · intro marked
    obtain ⟨other, _, _, _, forward | backward⟩ := tracks.partner address marked
    · exact .inl forward.opens
    · exact .inr backward.closing
  · intro bracket
    rcases tracks.covered address bracket.lt_size bracket with member | marked
    · rw [closed] at member
      cases member
    · exact marked

/-- The ends of a loop are joined. -/
theorem Tracks.joins_of_isLoop
    {first last : Nat}
    (tracks : Tracks program program.size final)
    (closed : final.pending = [])
    (loop : program.IsLoop first last) :
    final.Joins first last := by
  have marked := (tracks.marked_iff closed first).mpr (.inl loop.opens)
  obtain ⟨other, joins, _, _, forward | backward⟩ := tracks.partner first marked
  · rw [loop.last_unique forward]
    exact joins
  · have closes := backward.closing
    rw [loop.opens] at closes
    cases closes

/-- Once nothing is pending, the marks and targets are those of the loops. -/
theorem Tracks.matches
    (tracks : Tracks program program.size final)
    (closed : final.pending = []) :
    JumpTable.Matches ⟨final.targets, final.domain⟩ program where
  targetsSize := tracks.targetsSize
  domainSize := tracks.domainSize
  contains_iff address :=
    (JumpTable.contains_natCast_iff _ address).trans (tracks.marked_iff closed address)
  partner address bracket := by
    obtain ⟨other, _, _, _, loop⟩ :=
      tracks.partner address ((tracks.marked_iff closed address).mpr bracket)
    exact ⟨other, loop⟩
  forth _ _ loop := (tracks.joins_of_isLoop closed loop).forth
  back _ _ loop := (tracks.joins_of_isLoop closed loop).back
  identity address inside plain := by
    apply tracks.identity
    have stored : address < final.domain.size := by
      rw [tracks.domainSize]
      exact inside
    rw [Array.getElem?_eq_getElem stored, Option.some.injEq, Bool.eq_false_iff]
    intro marked
    apply plain
    rw [← tracks.marked_iff closed address, Array.getElem?_eq_getElem stored, marked]

end Matching

namespace Program

variable
  {program : Program}
  {table : JumpTable}

/-- A program whose loops can be resolved is balanced, and its table matches its brackets. -/
theorem matches_of_resolveLoops
    (resolved : program.resolveLoops = .ok table) :
    program.IsBalanced ∧ table.Matches program := by
  rcases program.resolveLoops_cases with
    ⟨final, tracks, closed, succeeds⟩ | ⟨_, _, fails⟩ | ⟨_, _, _, _, fails⟩
  · rw [succeeds] at resolved
    cases resolved
    refine ⟨⟨tracks.nonnegative, ?_⟩, tracks.matches closed⟩
    rw [tracks.height, closed]
    rfl
  · rw [fails] at resolved
    cases resolved
  · rw [fails] at resolved
    cases resolved

end Program

end Brainfuck
