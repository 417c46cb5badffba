import Brainfuck.Proofs.Loop.Depth

namespace Brainfuck

/-!
# Well nested sequences

A balanced program is built from commands that are no brackets and from loops
around shorter sequences of the same kind.  A derivation of this is what proofs
by induction over the structure of a program follow, and each loop of a
derivation is a loop of the program that the sequence is a part of.
-/

/-- Whether a sequence of commands is made of plain commands and whole loops. -/
inductive WellNested : List Opcode → Prop where
  | nil : WellNested []
  | plain
      {opcode : Opcode}
      {behind : List Opcode}
      (notOpening : opcode ≠ .loopOpen)
      (notClosing : opcode ≠ .loopClose)
      (later : WellNested behind) :
      WellNested (opcode :: behind)
  | loop
      {body behind : List Opcode}
      (inner : WellNested body)
      (later : WellNested behind) :
      WellNested (.loopOpen :: (body ++ .loopClose :: behind))

@[simp]
theorem nestingStep_loopOpen : nestingStep Opcode.loopOpen.word = 1 :=
  rfl

@[simp]
theorem nestingStep_loopClose : nestingStep Opcode.loopClose.word = -1 :=
  rfl

theorem nestingStep_of_plain
    {opcode : Opcode}
    (notOpening : opcode ≠ .loopOpen)
    (notClosing : opcode ≠ .loopClose) :
    nestingStep opcode.word = 0 := by
  cases opcode with
  | loopOpen =>
      exact absurd rfl notOpening
  | loopClose =>
      exact absurd rfl notClosing
  | moveRight | moveLeft | increment | decrement | output | input =>
      rfl

namespace WellNested

variable {body behind opcodes : List Opcode}

/-- A well nested sequence has as many opening as closing brackets. -/
theorem nesting_eq_zero (nested : WellNested body) :
    nesting (body.map Opcode.word) = 0 := by
  induction nested with
  | nil =>
      rfl
  | plain notOpening notClosing _ inductionHypothesis =>
      rw [List.map_cons, nesting, nestingStep_of_plain notOpening notClosing,
        inductionHypothesis]
      rfl
  | loop _ _ innerHypothesis laterHypothesis =>
      simp only [List.map_cons, List.map_append, nesting, nesting_append, nestingStep_loopOpen,
        nestingStep_loopClose, innerHypothesis, laterHypothesis]
      rfl

/-- No prefix of a well nested sequence has more closing than opening brackets. -/
theorem nesting_take_nonneg
    (nested : WellNested body)
    (count : Nat) :
    0 ≤ nesting ((body.take count).map Opcode.word) := by
  induction nested generalizing count with
  | nil =>
      simp [nesting]
  | plain notOpening notClosing _ inductionHypothesis =>
      cases count with
      | zero =>
          simp [nesting]
      | succ count =>
          rw [List.take_succ_cons, List.map_cons, nesting,
            nestingStep_of_plain notOpening notClosing, Int.zero_add]
          exact inductionHypothesis count
  | @loop inner behind innerNested _ innerHypothesis laterHypothesis =>
      cases count with
      | zero =>
          simp [nesting]
      | succ count =>
          rw [List.take_succ_cons, List.map_cons, nesting, nestingStep_loopOpen,
            List.take_append, List.map_append, nesting_append]
          have inside := innerHypothesis count
          cases rest : count - inner.length with
          | zero =>
              simp only [List.take_zero, List.map_nil, nesting]
              omega
          | succ more =>
              have whole : inner.length ≤ count := by omega
              have outside := laterHypothesis more
              rw [List.take_of_length_le whole, innerNested.nesting_eq_zero,
                List.take_succ_cons, List.map_cons, nesting, nestingStep_loopClose]
              omega

end WellNested

/--
A sequence with a prefix that has more closing than opening brackets begins
with a well nested sequence and a closing bracket without partner.
-/
theorem exists_wellNested_close
    (opcodes : List Opcode)
    (count : Nat)
    (negative : nesting ((opcodes.take count).map Opcode.word) < 0) :
    ∃ body behind, opcodes = body ++ .loopClose :: behind ∧ body.length < count ∧
      WellNested body := by
  -- What stands behind an inner loop is shorter, but no tail of the sequence.
  induction size : opcodes.length using Nat.strongRecOn generalizing opcodes count with
  | ind size inductionHypothesis =>
      subst size
      cases opcodes with
      | nil =>
          simp [nesting] at negative
      | cons opcode rest =>
          cases count with
          | zero =>
              simp [nesting] at negative
          | succ count =>
              rw [List.take_succ_cons, List.map_cons, nesting] at negative
              have shorter : rest.length < (opcode :: rest).length := Nat.lt_succ_self _
              by_cases closes : opcode = .loopClose
              · subst closes
                exact ⟨[], rest, rfl, Nat.succ_pos count, .nil⟩
              · by_cases opens : opcode = .loopOpen
                · subst opens
                  rw [nestingStep_loopOpen] at negative
                  obtain ⟨inner, middle, rfl, before, innerNested⟩ :=
                    inductionHypothesis rest.length shorter rest count (by omega) rfl
                  obtain ⟨more, rfl⟩ := Nat.exists_eq_add_of_lt before
                  rw [List.take_append, List.take_of_length_le (by omega), List.map_append,
                    nesting_append, innerNested.nesting_eq_zero,
                    show inner.length + more + 1 - inner.length = more + 1 by omega,
                    List.take_succ_cons, List.map_cons, nesting,
                    nestingStep_loopClose] at negative
                  obtain ⟨body, behind, rfl, inside, nested⟩ :=
                    inductionHypothesis middle.length (by simp; omega) middle more (by omega) rfl
                  refine ⟨.loopOpen :: (inner ++ .loopClose :: body), behind, ?_, ?_,
                    .loop innerNested nested⟩
                  · simp
                  · simp only [List.length_cons, List.length_append]
                    omega
                · rw [nestingStep_of_plain opens closes, Int.zero_add] at negative
                  obtain ⟨body, behind, rfl, inside, nested⟩ :=
                    inductionHypothesis rest.length shorter rest count negative rfl
                  exact ⟨opcode :: body, behind, rfl, Nat.succ_lt_succ inside,
                    .plain opens closes nested⟩

namespace Program

variable {before body behind opcodes : List Opcode}

theorem opcodeAt?_ofOpcodes
    (opcodes : List Opcode)
    (address : Nat) :
    (ofOpcodes opcodes).opcodeAt? address = opcodes[address]? := by
  have found : (ofOpcodes opcodes).wordAt? address = opcodes[address]?.map Opcode.word := by
    change (opcodes.map Opcode.word).toArray[address]? = _
    simp
  unfold opcodeAt?
  rw [found]
  cases opcodes[address]? with
  | none =>
      rfl
  | some opcode =>
      exact Opcode.ofWord?_word opcode

theorem size_ofOpcodes (opcodes : List Opcode) :
    (ofOpcodes opcodes).size = opcodes.length := by
  simp [ofOpcodes, size]

theorem depth_ofOpcodes
    (opcodes : List Opcode)
    (count : Nat) :
    (ofOpcodes opcodes).depth count = nesting ((opcodes.take count).map Opcode.word) := by
  simp [ofOpcodes, depth, List.map_take]

/-- A balanced program is a well nested sequence. -/
theorem IsBalanced.wellNested (balanced : (ofOpcodes opcodes).IsBalanced) :
    WellNested opcodes := by
  -- One closing bracket more leaves the shortest prefix that is not balanced.
  have level : nesting (opcodes.map Opcode.word) = 0 := by
    have whole := balanced.level
    rw [depth_ofOpcodes, size_ofOpcodes, List.take_length] at whole
    exact whole
  obtain ⟨body, behind, same, _, nested⟩ :=
    exists_wellNested_close (opcodes ++ [.loopClose]) (opcodes.length + 1) (by
      rw [List.take_of_length_le (by simp), List.map_append, nesting_append, level]
      decide)
  cases List.eq_nil_or_concat behind with
  | inl last =>
      subst last
      rw [List.append_cancel_right same]
      exact nested
  | inr earlier =>
      obtain ⟨middle, last, rfl⟩ := earlier
      have longer : opcodes = body ++ .loopClose :: middle := by
        have cut := congrArg List.dropLast same
        rw [List.dropLast_concat] at cut
        rw [cut, List.concat_eq_append, ← List.cons_append, ← List.append_assoc,
          List.dropLast_concat]
      have above := balanced.nonnegative (body.length + 1) (by
        rw [size_ofOpcodes, longer]
        simp)
      rw [depth_ofOpcodes, longer, List.take_append, List.take_of_length_le (by omega),
        show body.length + 1 - body.length = 0 + 1 by omega, List.take_succ_cons,
        List.take_zero, List.map_append, nesting_append, nested.nesting_eq_zero] at above
      cases above

/-- Each loop of a well nested sequence is a loop of the program around it. -/
theorem isLoop_of_wellNested
    (nested : WellNested body)
    (same : opcodes = before ++ .loopOpen :: (body ++ .loopClose :: behind)) :
    (ofOpcodes opcodes).IsLoop before.length (before.length + 1 + body.length) := by
  subst same
  have inside :
      ∀ count, count ≤ body.length →
        (ofOpcodes (before ++ .loopOpen :: (body ++ .loopClose :: behind))).depth
            (before.length + 1 + count) =
          nesting (before.map Opcode.word) + 1 +
            nesting ((body.take count).map Opcode.word) := by
    intro count within
    rw [depth_ofOpcodes, List.take_append, List.take_of_length_le (by omega),
      show before.length + 1 + count - before.length = count + 1 by omega,
      List.take_succ_cons, List.take_append_of_le_length within, List.map_append,
      nesting_append, List.map_cons, nesting, nestingStep_loopOpen]
    omega
  have front :
      (ofOpcodes (before ++ .loopOpen :: (body ++ .loopClose :: behind))).depth before.length =
        nesting (before.map Opcode.word) := by
    rw [depth_ofOpcodes, List.take_left]
  apply IsLoop.of_deeper
  case opens =>
    rw [opcodeAt?_ofOpcodes]
    simp
  case ordered =>
    omega
  case closes =>
    have closing :
        (ofOpcodes (before ++ .loopOpen :: (body ++ .loopClose :: behind))).opcodeAt?
            (before.length + 1 + body.length : Nat) =
          some .loopClose := by
      rw [opcodeAt?_ofOpcodes, Nat.add_assoc, List.getElem?_append_right (by omega)]
      simp [Nat.add_comm 1]
    rw [depth_succ_of_close closing, inside body.length (Nat.le_refl _), front,
      List.take_length, nested.nesting_eq_zero]
    omega
  case above =>
    intro address behindFirst upToLast
    obtain ⟨count, rfl⟩ := Nat.exists_eq_add_of_le behindFirst
    have above := nested.nesting_take_nonneg count
    rw [front, inside count (by omega)]
    omega

end Program

end Brainfuck
