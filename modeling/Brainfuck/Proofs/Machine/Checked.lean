import Brainfuck.Machine.Checked
import Brainfuck.Proofs.Machine.Fits

namespace Brainfuck

/-!
# No index leaves its array

From a machine that fits its program, steps and batches that check every index
do what those without checks do.  No index is ever outside its array.
-/

theorem JumpTable.get_eq_ok
    {table : JumpTable}
    {address : Nat}
    {target : Int}
    (found : table.get address = .ok target) :
    table.domain[address]? = some true ∧ table.targets[address]? = some target := by
  unfold get at found
  by_cases marked : table.contains address = true
  · refine ⟨(table.contains_natCast_iff address).mp marked, ?_⟩
    simp only [marked, ↓reduceIte, Int.toNat_natCast] at found
    cases stored : table.targets[address]? with
    | none =>
        rw [stored] at found
        cases found
    | some other =>
        rw [stored] at found
        cases found
        rfl
  · simp only [marked, Bool.false_eq_true, ↓reduceIte] at found
    cases found

namespace Machine

variable
  {σ : Type}
  {program : Program}
  {table : JumpTable}
  {machine : Machine}
  {cells : Nat}

namespace Fits

theorem checkedCell_eq (fits : machine.Fits program cells) :
    machine.checkedCell = some machine.cell := by
  have onTape : machine.pointer < machine.tape.size := by
    rw [fits.tapeSize]
    exact fits.pointer
  unfold checkedCell cell
  rw [Array.getD_eq_getD_getElem?, Array.getElem?_eq_getElem onTape]
  rfl

theorem checkedStore_eq
    (fits : machine.Fits program cells)
    (value : UInt8) :
    machine.checkedStore value = some (machine.store value) := by
  have onTape : machine.pointer < machine.tape.size := by
    rw [fits.tapeSize]
    exact fits.pointer
  unfold checkedStore
  rw [if_pos onTape]

theorem exists_word
    (fits : machine.Fits program cells)
    (going : machine.isPast program = false) :
    ∃ word, elementInside? program.words machine.pc = some word ∧
      Opcode.ofWord? word = program.opcodeAt? machine.pc := by
  obtain ⟨offset, same, inside⟩ := exists_offset fits.standing going
  refine ⟨program.words[offset], ?_, ?_⟩
  · rw [same]
    exact Array.getElem?_eq_getElem inside
  · rw [same, Program.opcodeAt?_of_lt inside]

/-- At a bracket, the table has a mark and a target. -/
theorem exists_target
    (matching : table.Matches program)
    (fits : machine.Fits program cells)
    (bracket :
      program.opcodeAt? machine.pc = some .loopOpen ∨
        program.opcodeAt? machine.pc = some .loopClose) :
    ∃ target,
      table.get machine.pc = .ok target ∧
        elementInside? table.domain machine.pc = some true ∧
        elementInside? table.targets machine.pc = some target := by
  obtain ⟨offset, same⟩ := Int.eq_ofNat_of_zero_le fits.standing
  rw [same] at bracket ⊢
  obtain ⟨other, loop | loop⟩ := matching.partner offset bracket
  · have found := matching.get_first loop
    obtain ⟨marked, stored⟩ := JumpTable.get_eq_ok found
    exact ⟨_, found, marked, stored⟩
  · have found := matching.get_last loop
    obtain ⟨marked, stored⟩ := JumpTable.get_eq_ok found
    exact ⟨_, found, marked, stored⟩

theorem checkedLeap_eq
    (matching : table.Matches program)
    (fits : machine.Fits program cells)
    (bracket :
      program.opcodeAt? machine.pc = some .loopOpen ∨
        program.opcodeAt? machine.pc = some .loopClose) :
    machine.checkedLeap table = some (machine.leap table) := by
  obtain ⟨target, _, _, stored⟩ := fits.exists_target matching bracket
  have read : table.targetAt? machine.pc = some target := by
    obtain ⟨offset, same⟩ := Int.eq_ofNat_of_zero_le fits.standing
    rw [same] at stored ⊢
    exact stored
  unfold checkedLeap leap
  rw [stored, read]
  rfl

theorem checkedJump_eq
    (matching : table.Matches program)
    (fits : machine.Fits program cells)
    (bracket :
      program.opcodeAt? machine.pc = some .loopOpen ∨
        program.opcodeAt? machine.pc = some .loopClose)
    (channel : σ) :
    checkedJump table machine channel = some (jump table machine channel) := by
  obtain ⟨target, found, marked, stored⟩ := fits.exists_target matching bracket
  unfold checkedJump checkedLeap jump
  rw [marked, stored, found]
  rfl

/-- A step that checks every index does what a step does. -/
theorem checkedStep_eq
    (matching : table.Matches program)
    (fits : machine.Fits program cells)
    (going : machine.isPast program = false)
    (console : Console σ)
    (channel : σ) :
    checkedStep console program table machine channel =
      some (machine.step console program table channel) := by
  obtain ⟨word, read, decoded⟩ := fits.exists_word going
  rw [step_eq fits.standing going]
  unfold checkedStep
  simp only [read, decoded, Option.bind_eq_bind, Option.bind_some, fits.checkedCell_eq,
    fits.checkedStore_eq]
  cases found : program.opcodeAt? machine.pc with
  | none =>
      rfl
  | some opcode =>
      cases opcode with
      | increment | decrement =>
          rfl
      | moveRight | moveLeft =>
          simp only [execute]
          split <;> rfl
      | output =>
          simp only [execute]
          cases console.write machine.cell channel with
          | mk result next =>
              cases result <;> rfl
      | input =>
          simp only [execute]
          cases console.read channel with
          | mk reading next =>
              cases reading <;> rfl
      | loopOpen =>
          simp only [execute, fits.checkedJump_eq matching (.inl found)]
          split <;> rfl
      | loopClose =>
          simp only [execute, fits.checkedJump_eq matching (.inr found)]
          split <;> rfl

theorem of_tapeStep?
    {next : Machine}
    (matching : table.Matches program)
    (fits : machine.Fits program cells)
    (going : machine.isPast program = false)
    (stepped : machine.tapeStep? program table = some next) :
    next.Fits program cells := by
  let silent : Console Unit :=
    ⟨fun channel => (.endOfInput, channel), fun _ channel => (.ok (), channel)⟩
  obtain ⟨sameStep, _⟩ :=
    step_of_tapeStep? matching.serves fits.standing going stepped silent ()
  exact fits.step matching going sameStep

/-- A batch that checks every index does what a batch does. -/
theorem checkedBatch_eq
    (matching : table.Matches program)
    (fits : machine.Fits program cells)
    (limit : Nat) :
    checkedBatch program table limit machine = some (runBatch program table limit machine) := by
  induction limit generalizing machine with
  | zero =>
      rfl
  | succ limit inductionHypothesis =>
      cases past : machine.isPast program with
      | true =>
          simp only [checkedBatch, runBatch, past, ↓reduceIte]
      | false =>
          obtain ⟨word, read, decoded⟩ := fits.exists_word past
          have goesOn {next : Machine}
              (stepped : machine.tapeStep? program table = some next) :
              checkedBatch program table limit next =
                some (runBatch program table limit next) :=
            inductionHypothesis (fits.of_tapeStep? matching past stepped)
          unfold tapeStep? at goesOn
          rw [checkedBatch, runBatch]
          simp only [past, Bool.false_eq_true, ↓reduceIte, read, decoded, Option.bind_eq_bind,
            Option.bind_some, fits.checkedCell_eq, fits.checkedStore_eq]
          cases found : program.opcodeAt? machine.pc with
          | none =>
              simp only [found] at goesOn
              exact goesOn rfl
          | some opcode =>
              simp only [found] at goesOn
              cases opcode with
              | output | input =>
                  rfl
              | increment | decrement =>
                  exact goesOn rfl
              | moveRight =>
                  by_cases room : machine.pointer + 1 < machine.tape.size
                  · simp only [room, ↓reduceIte] at goesOn ⊢
                    exact goesOn rfl
                  · simp only [room, ↓reduceIte]
              | moveLeft =>
                  by_cases edge : machine.pointer = 0
                  · simp only [edge, ↓reduceIte]
                  · simp only [edge, ↓reduceIte] at goesOn ⊢
                    exact goesOn rfl
              | loopOpen =>
                  have leaps := fits.checkedLeap_eq matching (.inl found)
                  by_cases zero : machine.cell = 0
                  · simp only [zero, ↓reduceIte, leaps, Option.bind_some] at goesOn ⊢
                    exact goesOn rfl
                  · simp only [zero, ↓reduceIte] at goesOn ⊢
                    exact goesOn rfl
              | loopClose =>
                  have leaps := fits.checkedLeap_eq matching (.inr found)
                  by_cases zero : machine.cell = 0
                  · simp only [zero, ↓reduceIte] at goesOn ⊢
                    exact goesOn rfl
                  · simp only [zero, ↓reduceIte, leaps, Option.bind_some] at goesOn ⊢
                    exact goesOn rfl

end Fits

end Machine

end Brainfuck
