import Brainfuck.Proofs.Machine.Fits

namespace Brainfuck.Machine

/-!
# Longer tapes

Zero cells behind the right end of a tape make no difference to a machine until
it moves onto them: each successful step on the shorter tape is one on the longer
tape, and so is each obstacle but the right end itself.
-/

/-- The machine with a number of zero cells more at the right end of its tape. -/
def widened
    (extra : Nat)
    (machine : Machine) :
    Machine :=
  { machine with tape := machine.tape ++ Array.replicate extra 0 }

variable
  {σ : Type}
  {console : Console σ}
  {program : Program}
  {table : JumpTable}
  {machine next last : Machine}
  {channel nextChannel lastChannel : σ}
  {cells extra : Nat}

theorem widened_start (cells extra : Nat) :
    (start (Array.replicate cells 0)).widened extra =
      start (Array.replicate (cells + extra) 0) := by
  simp [widened, start]

theorem cell_widened
    (onTape : machine.pointer < machine.tape.size)
    (extra : Nat) :
    (machine.widened extra).cell = machine.cell := by
  have same :
      (machine.tape ++ Array.replicate extra 0)[machine.pointer]? =
        machine.tape[machine.pointer]? :=
    Array.getElem?_append_left onTape
  unfold cell widened
  rw [Array.getD_eq_getD_getElem?, Array.getD_eq_getD_getElem?, same]

theorem store_widened
    (onTape : machine.pointer < machine.tape.size)
    (extra : Nat)
    (value : UInt8) :
    (machine.widened extra).store value = (machine.store value).widened extra := by
  have same :
      (machine.tape ++ Array.replicate extra 0).setIfInBounds machine.pointer value =
        machine.tape.setIfInBounds machine.pointer value ++ Array.replicate extra 0 :=
    Array.setIfInBounds_append_left onTape
  unfold store widened
  rw [same]

theorem jump_widened
    (jumped : jump table machine channel = ⟨none, next, nextChannel⟩)
    (extra : Nat) :
    jump table (machine.widened extra) channel = ⟨none, next.widened extra, nextChannel⟩ := by
  have same : (machine.widened extra).pc = machine.pc := rfl
  unfold jump at jumped ⊢
  rw [same]
  cases target : table.get machine.pc with
  | error failure =>
      rw [target] at jumped
      cases jumped
  | ok address =>
      rw [target] at jumped
      cases jumped
      rfl

/-- A step that succeeds on a tape succeeds on a longer one. -/
theorem step_widened
    (fits : machine.Fits program cells)
    (going : machine.isPast program = false)
    (stepped : machine.step console program table channel = ⟨none, next, nextChannel⟩)
    (extra : Nat) :
    (machine.widened extra).step console program table channel =
      ⟨none, next.widened extra, nextChannel⟩ := by
  have onTape := fits.onTape
  have sameCell := cell_widened onTape extra
  have samePc : (machine.widened extra).pc = machine.pc := rfl
  have samePointer : (machine.widened extra).pointer = machine.pointer := rfl
  have stillStanding : 0 ≤ (machine.widened extra).pc := fits.standing
  have stillGoing : (machine.widened extra).isPast program = false := going
  rw [step_eq fits.standing going] at stepped
  rw [step_eq stillStanding stillGoing, samePc]
  cases found : program.opcodeAt? machine.pc with
  | none =>
      simp only [found] at stepped ⊢
      cases stepped
      rfl
  | some opcode =>
      simp only [found] at stepped ⊢
      cases opcode with
      | increment | decrement =>
          cases stepped
          simp only [execute, sameCell, store_widened onTape]
          rfl
      | moveRight =>
          by_cases room : machine.pointer + 1 < machine.tape.size
          · have wideRoom :
                (machine.widened extra).pointer + 1 < (machine.widened extra).tape.size := by
              simp only [widened, Array.size_append]
              omega
            simp only [execute, room, ↓reduceIte] at stepped
            simp only [execute, wideRoom, ↓reduceIte]
            cases stepped
            rfl
          · simp only [execute, room, ↓reduceIte] at stepped
            cases stepped
      | moveLeft =>
          simp only [execute, samePointer] at stepped ⊢
          split at stepped
          · cases stepped
          · next inside =>
              rw [if_neg inside]
              cases stepped
              rfl
      | output =>
          simp only [execute, sameCell] at stepped ⊢
          cases written : console.write machine.cell channel with
          | mk result after =>
              rw [written] at stepped
              cases result with
              | error cause =>
                  cases stepped
              | ok _ =>
                  cases stepped
                  rfl
      | input =>
          simp only [execute] at stepped ⊢
          cases answered : console.read channel with
          | mk reading after =>
              rw [answered] at stepped
              cases reading with
              | failure cause =>
                  cases stepped
              | endOfInput =>
                  cases stepped
                  rfl
              | number value =>
                  cases stepped
                  simp only [store_widened onTape]
                  rfl
      | loopOpen =>
          simp only [execute, sameCell] at stepped ⊢
          split at stepped
          · next zero =>
              rw [if_pos zero]
              exact jump_widened stepped extra
          · next nonzero =>
              rw [if_neg nonzero]
              cases stepped
              rfl
      | loopClose =>
          simp only [execute, sameCell] at stepped ⊢
          split at stepped
          · next zero =>
              rw [if_pos zero]
              cases stepped
              rfl
          · next nonzero =>
              rw [if_neg nonzero]
              exact jump_widened stepped extra

/-- A path on a tape is one on a longer tape. -/
theorem Path.widened
    {count : Nat}
    (matching : table.Matches program)
    (fits : machine.Fits program cells)
    (path : Path console program table count machine channel last lastChannel)
    (extra : Nat) :
    Path console program table count (machine.widened extra) channel (last.widened extra)
      lastChannel := by
  induction path with
  | refl machine channel =>
      exact .refl _ _
  | step going first _ inductionHypothesis =>
      exact .step going (step_widened fits going first extra)
        (inductionHypothesis (fits.step matching going first))

end Brainfuck.Machine
