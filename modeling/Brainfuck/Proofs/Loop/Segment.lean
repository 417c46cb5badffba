import Brainfuck.Proofs.Loop.Acceptance
import Brainfuck.Proofs.Loop.WellNested

namespace Brainfuck

/-!
# Segments

A program may stand inside a longer one, as a segment of its commands.  The
loops of the segment are then loops of the longer program, moved by the number
of commands in front of it.  Programs with balanced brackets stay balanced when
they are put one behind the other, or into a loop.
-/

/-- The loop that repeats a program as long as the current cell is not zero. -/
def loopAround (code : List Opcode) : List Opcode :=
  .loopOpen :: (code ++ [.loopClose])

theorem length_loopAround (code : List Opcode) :
    (loopAround code).length = code.length + 2 := by
  simp [loopAround]

/-- Whether commands stand in a longer sequence of commands, from an offset on. -/
inductive IsSegment : Nat → List Opcode → List Opcode → Prop where
  | intro (before code behind : List Opcode) :
      IsSegment before.length code (before ++ (code ++ behind))

namespace IsSegment

variable
  {offset : Nat}
  {code opcodes : List Opcode}

theorem append_left (front back : List Opcode) :
    IsSegment 0 front (front ++ back) :=
  .intro [] front back

theorem append_right (front back : List Opcode) :
    IsSegment front.length back (front ++ back) := by
  have segment := IsSegment.intro front back []
  rw [List.append_nil] at segment
  exact segment

theorem body (code : List Opcode) :
    IsSegment 1 code (loopAround code) :=
  .intro [.loopOpen] code [.loopClose]

theorem add_length_le (segment : IsSegment offset code opcodes) :
    offset + code.length ≤ opcodes.length := by
  cases segment with
  | intro before _ behind =>
      simp only [List.length_append]
      omega

theorem opcodeAt?_add
    {address : Nat}
    (segment : IsSegment offset code opcodes)
    (inside : address < code.length) :
    (Program.ofOpcodes opcodes).opcodeAt? (offset + address : Nat) =
      (Program.ofOpcodes code).opcodeAt? address := by
  cases segment with
  | intro before _ behind =>
      rw [Program.opcodeAt?_ofOpcodes, Program.opcodeAt?_ofOpcodes,
        List.getElem?_append_right (Nat.le_add_right _ _), Nat.add_sub_cancel_left,
        List.getElem?_append_left inside]

/-- In a segment, the depth changes as in the program that the segment is. -/
theorem depth_add
    {count : Nat}
    (segment : IsSegment offset code opcodes)
    (within : count ≤ code.length) :
    (Program.ofOpcodes opcodes).depth (offset + count) =
      (Program.ofOpcodes opcodes).depth offset + (Program.ofOpcodes code).depth count := by
  cases segment with
  | intro before _ behind =>
      rw [Program.depth_ofOpcodes, Program.depth_ofOpcodes, Program.depth_ofOpcodes,
        List.take_length_add_append, List.take_append_of_le_length within, List.take_left,
        List.map_append, nesting_append]

/-- The loops of a segment are loops of the longer program. -/
theorem isLoop
    {first last : Nat}
    (segment : IsSegment offset code opcodes)
    (loop : (Program.ofOpcodes code).IsLoop first last) :
    (Program.ofOpcodes opcodes).IsLoop (offset + first) (offset + last) := by
  have inside := loop.last_lt_size
  have ordered := loop.ordered
  rw [Program.size_ofOpcodes] at inside
  apply Program.IsLoop.of_deeper
  case opens =>
    rw [segment.opcodeAt?_add (Nat.lt_trans ordered inside)]
    exact loop.opens
  case ordered =>
    exact Nat.add_lt_add_left ordered offset
  case closes =>
    rw [Nat.add_assoc, segment.depth_add inside, segment.depth_add (by omega), loop.closes]
  case above =>
    intro address behindFirst upToLast
    obtain ⟨count, rfl⟩ : ∃ count, address = offset + count :=
      Nat.exists_eq_add_of_le (by omega)
    have deeper := loop.deeper (Nat.lt_of_add_lt_add_left behindFirst)
      (Nat.le_of_add_le_add_left upToLast)
    rw [segment.depth_add (by omega), segment.depth_add (by omega)]
    omega

end IsSegment

namespace WellNested

variable {front back code : List Opcode}

theorem append
    (first : WellNested front)
    (second : WellNested back) :
    WellNested (front ++ back) := by
  induction first with
  | nil =>
      exact second
  | plain notOpening notClosing _ inductionHypothesis =>
      exact .plain notOpening notClosing inductionHypothesis
  | loop inner _ _ laterHypothesis =>
      rw [List.cons_append, List.append_assoc, List.cons_append]
      exact .loop inner laterHypothesis

theorem isBalanced (nested : WellNested code) :
    (Program.ofOpcodes code).IsBalanced where
  nonnegative count _ := by
    rw [Program.depth_ofOpcodes]
    exact nested.nesting_take_nonneg count
  level := by
    rw [Program.depth_ofOpcodes, Program.size_ofOpcodes, List.take_length]
    exact nested.nesting_eq_zero

end WellNested

namespace Program

/-- The loops of a balanced program are resolved. -/
theorem IsBalanced.exists_resolveLoops
    {program : Program}
    (balanced : program.IsBalanced) :
    ∃ table, program.resolveLoops = .ok table := by
  rcases program.resolveLoops_cases with
    ⟨final, _, _, succeeds⟩ | ⟨address, stray, _⟩ | ⟨final, address, tracks, outermost, _⟩
  · exact ⟨_, succeeds⟩
  · exact absurd balanced stray.not_isBalanced
  · obtain ⟨stays, _⟩ := staysOpen_of_pending tracks outermost
    have deep := stays.deep program.size (lt_size_of_opcodeAt? stays.opens) (Nat.le_refl _)
    have level := balanced.level
    omega

variable {front back code : List Opcode}

theorem isBalanced_append
    (first : (ofOpcodes front).IsBalanced)
    (second : (ofOpcodes back).IsBalanced) :
    (ofOpcodes (front ++ back)).IsBalanced :=
  (first.wellNested.append second.wellNested).isBalanced

theorem isBalanced_loopAround (inner : (ofOpcodes code).IsBalanced) :
    (ofOpcodes (loopAround code)).IsBalanced :=
  (WellNested.loop inner.wellNested .nil).isBalanced

/-- A balanced program in brackets is a loop. -/
theorem isLoop_loopAround (inner : (ofOpcodes code).IsBalanced) :
    (ofOpcodes (loopAround code)).IsLoop 0 (code.length + 1) := by
  have same :
      loopAround code = [] ++ .loopOpen :: (code ++ .loopClose :: []) :=
    rfl
  have loop := isLoop_of_wellNested inner.wellNested same
  rw [List.length_nil, Nat.zero_add, Nat.add_comm] at loop
  exact loop

end Program

end Brainfuck
