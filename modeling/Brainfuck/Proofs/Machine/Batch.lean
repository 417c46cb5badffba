import Brainfuck.Machine.Batch
import Brainfuck.Proofs.Loop.Table
import Brainfuck.Proofs.Machine.Path

namespace Brainfuck

/-!
# Batches as paths

A word that needs nothing but the tape leads to the next machine; any other word
stops a batch.  On a table that serves the program, such a word does to the
machine what a step does, so that a batch is a path and its stop is served by
the next step.
-/

/-- Whether a table has a target for each address and knows every bracket of a program. -/
structure JumpTable.Serves
    (table : JumpTable)
    (program : Program) :
    Prop where
  long : program.size ≤ table.targets.size
  nonnegative : ∀ target ∈ table.targets, 0 ≤ target
  marked : ∀ address : Nat, program.HasBracket address → table.contains address = true

/-- A table that matches a program serves it. -/
theorem JumpTable.Matches.serves
    {program : Program}
    {table : JumpTable}
    (matching : table.Matches program) :
    table.Serves program where
  long := Nat.le_of_eq matching.targetsSize.symm
  nonnegative target member := by
    obtain ⟨address, inside, rfl⟩ := Array.mem_iff_getElem.mp member
    have stored : table.targets[address]? = some table.targets[address] :=
      Array.getElem?_eq_getElem inside
    rw [matching.targetsSize] at inside
    by_cases bracket : program.HasBracket address
    · obtain ⟨other, forward | backward⟩ := matching.partner address bracket
      · rw [matching.forth address other forward, Option.some.injEq] at stored
        omega
      · rw [matching.back other address backward, Option.some.injEq] at stored
        omega
    · rw [matching.identity address inside bracket, Option.some.injEq] at stored
      omega
  marked address bracket := (matching.contains_iff address).mpr bracket

namespace Machine

/-- The machine behind the current word, if that word needs nothing but the tape. -/
def tapeStep?
    (program : Program)
    (table : JumpTable)
    (machine : Machine) :
    Option Machine :=
  match program.opcodeAt? machine.pc with
  | some .moveRight =>
      if machine.pointer + 1 < machine.tape.size then
        some (machine.point (machine.pointer + 1)).advance
      else none
  | some .moveLeft =>
      if machine.pointer = 0 then none
      else some (machine.point (machine.pointer - 1)).advance
  | some .increment => some (machine.store (machine.cell + 1)).advance
  | some .decrement => some (machine.store (machine.cell - 1)).advance
  | some .output => none
  | some .input => none
  | some .loopOpen =>
      some (if machine.cell = 0 then machine.leap table else machine.advance)
  | some .loopClose =>
      some (if machine.cell = 0 then machine.advance else machine.leap table)
  | none => some machine.advance

/-- Why a batch stops in front of a word that needs more than the tape. -/
def stopReason
    (program : Program)
    (machine : Machine) :
    StopReason :=
  match program.opcodeAt? machine.pc with
  | some .output => .output
  | some .input => .input
  | _ => .offTape

variable
  {σ : Type}
  {console : Console σ}
  {program : Program}
  {table : JumpTable}
  {machine next : Machine}
  {channel : σ}

/-- A batch goes from word to word until one needs more than the tape. -/
theorem runBatch_succ (limit : Nat) :
    runBatch program table (limit + 1) machine =
      if machine.isPast program then
        (.finished, machine)
      else
        match machine.tapeStep? program table with
        | some next => runBatch program table limit next
        | none => (machine.stopReason program, machine) := by
  rw [runBatch]
  unfold tapeStep? stopReason
  split
  · rfl
  · cases program.opcodeAt? machine.pc with
    | none =>
        rfl
    | some opcode =>
        cases opcode with
        | increment | decrement | output | input =>
            rfl
        | moveRight | moveLeft | loopOpen | loopClose =>
            simp only
            split <;> rfl

theorem exists_offset
    (standing : 0 ≤ machine.pc)
    (going : machine.isPast program = false) :
    ∃ offset : Nat, machine.pc = offset ∧ offset < program.size := by
  obtain ⟨offset, same⟩ := Int.eq_ofNat_of_zero_le standing
  refine ⟨offset, same, ?_⟩
  unfold isPast at going
  rw [decide_eq_false_iff_not, same] at going
  omega

theorem step_eq
    (standing : 0 ≤ machine.pc)
    (going : machine.isPast program = false) :
    machine.step console program table channel =
      match program.opcodeAt? machine.pc with
      | none => proceed machine.advance channel
      | some opcode => execute console program table opcode machine channel := by
  obtain ⟨offset, same, inside⟩ := exists_offset standing going
  have found : program.wordAt? machine.pc = some program.words[offset] := by
    rw [same]
    exact Array.getElem?_eq_getElem inside
  unfold step Program.opcodeAt?
  rw [found]
  rfl

/-- Both brackets of a loop lead behind it or into it, as the cell tells. -/
theorem step_of_isLoop
    {first last : Nat}
    (matching : table.Matches program)
    (loop : program.IsLoop first last)
    (stands : machine.pc = first ∨ machine.pc = last)
    (console : Console σ)
    (channel : σ) :
    machine.step console program table channel =
      proceed (machine.behind (if machine.cell = 0 then last else first : Nat)) channel := by
  have ordered := loop.ordered
  have bound := loop.last_lt_size
  have standing : 0 ≤ machine.pc := by omega
  have going : machine.isPast program = false := by
    apply decide_eq_false
    omega
  rw [step_eq standing going]
  rcases stands with atFirst | atLast
  · rw [atFirst, loop.opens]
    simp only [execute, jump, atFirst, matching.get_first loop]
    split
    · rfl
    · simp only [advance, atFirst]
  · rw [atLast, loop.closing]
    simp only [execute, jump, atLast, matching.get_last loop]
    split
    · simp only [advance, atLast]
    · rfl

/-- On a table that serves the program, a jump from a bracket reads its target. -/
theorem jump_eq_proceed_leap
    (serves : table.Serves program)
    {offset : Nat}
    (same : machine.pc = offset)
    (bracket : program.HasBracket offset) :
    jump table machine channel = proceed (machine.leap table) channel ∧
      0 ≤ (machine.leap table).pc := by
  have inside : offset < table.targets.size :=
    Nat.lt_of_lt_of_le bracket.lt_size serves.long
  have stored : table.targets[offset]? = some table.targets[offset] :=
    Array.getElem?_eq_getElem inside
  have found : table.get machine.pc = .ok table.targets[offset] := by
    rw [same]
    exact JumpTable.get_natCast (serves.marked offset bracket) stored
  have read : table.targetAt? machine.pc = some table.targets[offset] := by
    rw [same]
    exact stored
  have forward := serves.nonnegative table.targets[offset] (Array.getElem_mem inside)
  unfold jump leap
  rw [found, read]
  refine ⟨rfl, ?_⟩
  simp only [behind, Option.getD_some]
  omega

/-- A word that needs nothing but the tape does the same to the machine as a step. -/
theorem step_of_tapeStep?
    (serves : table.Serves program)
    (standing : 0 ≤ machine.pc)
    (going : machine.isPast program = false)
    (stepped : machine.tapeStep? program table = some next)
    (console : Console σ)
    (channel : σ) :
    machine.step console program table channel = ⟨none, next, channel⟩ ∧ 0 ≤ next.pc := by
  obtain ⟨offset, same, _⟩ := exists_offset standing going
  have beyond : 0 ≤ machine.pc + 1 := by omega
  rw [step_eq standing going]
  unfold tapeStep? at stepped
  cases found : program.opcodeAt? machine.pc with
  | none =>
      simp only [found] at stepped
      cases stepped
      exact ⟨rfl, beyond⟩
  | some opcode =>
      simp only [found] at stepped
      have jumps : opcode = .loopOpen ∨ opcode = .loopClose →
          jump table machine channel = proceed (machine.leap table) channel ∧
            0 ≤ (machine.leap table).pc := by
        rintro (rfl | rfl)
        · exact jump_eq_proceed_leap serves same (.inl (by rw [← same]; exact found))
        · exact jump_eq_proceed_leap serves same (.inr (by rw [← same]; exact found))
      cases opcode with
      | moveRight =>
          by_cases room : machine.pointer + 1 < machine.tape.size
          · simp only [room, ↓reduceIte] at stepped
            cases stepped
            simp only [execute, room, ↓reduceIte]
            exact ⟨rfl, beyond⟩
          · simp [room] at stepped
      | moveLeft =>
          by_cases origin : machine.pointer = 0
          · simp [origin] at stepped
          · simp only [origin, ↓reduceIte] at stepped
            cases stepped
            simp only [execute, origin, ↓reduceIte]
            exact ⟨rfl, beyond⟩
      | increment | decrement =>
          cases stepped
          exact ⟨rfl, beyond⟩
      | output | input =>
          cases stepped
      | loopOpen =>
          by_cases zero : machine.cell = 0
          · simp only [zero, ↓reduceIte] at stepped
            cases stepped
            simp only [execute, zero, ↓reduceIte]
            exact jumps (.inl rfl)
          · simp only [zero, ↓reduceIte] at stepped
            cases stepped
            simp only [execute, zero, ↓reduceIte]
            exact ⟨rfl, beyond⟩
      | loopClose =>
          by_cases zero : machine.cell = 0
          · simp only [zero, ↓reduceIte] at stepped
            cases stepped
            simp only [execute, zero, ↓reduceIte]
            exact ⟨rfl, beyond⟩
          · simp only [zero, ↓reduceIte] at stepped
            cases stepped
            simp only [execute, zero, ↓reduceIte]
            exact jumps (.inr rfl)

/--
The three ways in which a batch ends, each behind a path: past the end of the
program, at its limit, or in front of a word that needs more than the tape.
-/
theorem runBatch_cases
    (serves : table.Serves program)
    (standing : 0 ≤ machine.pc)
    (console : Console σ)
    (channel : σ)
    (limit : Nat) :
    ∃ count stopped,
      Path console program table count machine channel stopped channel ∧
        0 ≤ stopped.pc ∧
        ((stopped.isPast program = true ∧
            runBatch program table limit machine = (.finished, stopped)) ∨
          (stopped.isPast program = false ∧ count = limit ∧
            runBatch program table limit machine = (.stepLimit, stopped)) ∨
          (stopped.isPast program = false ∧ stopped.tapeStep? program table = none ∧
            runBatch program table limit machine =
              (stopped.stopReason program, stopped))) := by
  induction limit generalizing machine with
  | zero =>
      refine ⟨0, machine, .refl machine channel, standing, ?_⟩
      cases past : machine.isPast program with
      | true =>
          exact .inl ⟨rfl, by simp only [runBatch, past, ↓reduceIte]⟩
      | false =>
          exact .inr (.inl ⟨rfl, rfl, by simp [runBatch, past]⟩)
  | succ limit inductionHypothesis =>
      rw [runBatch_succ]
      cases past : machine.isPast program with
      | true =>
          exact ⟨0, machine, .refl machine channel, standing, .inl ⟨past, rfl⟩⟩
      | false =>
          cases stepped : machine.tapeStep? program table with
          | none =>
              exact ⟨0, machine, .refl machine channel, standing,
                .inr (.inr ⟨past, stepped, rfl⟩)⟩
          | some next =>
              obtain ⟨sameStep, nextStanding⟩ :=
                step_of_tapeStep? serves standing past stepped console channel
              obtain ⟨count, stopped, path, stoppedStanding, ends⟩ :=
                inductionHypothesis nextStanding
              refine ⟨count + 1, stopped, .step past sameStep path, stoppedStanding, ?_⟩
              rcases ends with finished | ⟨going, same, limited⟩ | served
              · exact .inl finished
              · exact .inr (.inl ⟨going, congrArg (· + 1) same, limited⟩)
              · exact .inr (.inr served)

theorem opcodeAt?_of_stop
    (stopped : machine.tapeStep? program table = none) :
    program.opcodeAt? machine.pc = some .output ∨
      program.opcodeAt? machine.pc = some .input ∨
      (program.opcodeAt? machine.pc = some .moveRight ∧
        ¬ machine.pointer + 1 < machine.tape.size) ∨
      (program.opcodeAt? machine.pc = some .moveLeft ∧ machine.pointer = 0) := by
  unfold tapeStep? at stopped
  cases found : program.opcodeAt? machine.pc with
  | none =>
      simp [found] at stopped
  | some opcode =>
      cases opcode <;> simp_all

/--
The stop of a batch is served as a step serves the word there, and behind the
word another batch begins.
-/
theorem runBatches_of_stop
    {origin : Machine}
    {limit : Nat}
    (standing : 0 ≤ machine.pc)
    (going : machine.isPast program = false)
    (stopped : machine.tapeStep? program table = none)
    (batch : runBatch program table limit origin = (machine.stopReason program, machine))
    (fuel : Nat)
    (notices : Array Notice) :
    runBatches console program table limit (fuel + 1) origin channel notices =
      match machine.step console program table channel with
      | ⟨some failure, last, lastChannel⟩ => ⟨.failed failure, last, lastChannel, notices⟩
      | ⟨none, last, lastChannel⟩ =>
          if last.isPast program then
            ⟨.finished, last, lastChannel, notices⟩
          else
            runBatches console program table limit fuel last lastChannel notices := by
  rw [runBatches, batch, step_eq standing going]
  rcases opcodeAt?_of_stop stopped with output | input | ⟨right, edge⟩ | ⟨left, origin⟩
  · simp only [stopReason, output, execute]
    cases console.write machine.cell channel with
    | mk result nextChannel =>
        cases result <;> rfl
  · simp only [stopReason, input, execute]
    cases console.read channel with
    | mk reading nextChannel =>
        cases reading <;> rfl
  · simp only [stopReason, right, execute, edge, ↓reduceIte, attemptedPointer, refuse]
  · simp only [stopReason, left, execute, origin, ↓reduceIte, attemptedPointer, refuse]
    rfl

theorem pc_of_stop
    {nextChannel : σ}
    (standing : 0 ≤ machine.pc)
    (going : machine.isPast program = false)
    (stopped : machine.tapeStep? program table = none)
    (stepped : machine.step console program table channel = ⟨none, next, nextChannel⟩) :
    next.pc = machine.pc + 1 := by
  rw [step_eq standing going] at stepped
  rcases opcodeAt?_of_stop stopped with output | input | ⟨right, edge⟩ | ⟨left, origin⟩
  · simp only [output, execute] at stepped
    cases written : console.write machine.cell channel with
    | mk result lastChannel =>
        cases result <;> simp only [written] at stepped <;> cases stepped
        rfl
  · simp only [input, execute] at stepped
    cases answered : console.read channel with
    | mk reading lastChannel =>
        cases reading <;> simp only [answered] at stepped <;> cases stepped <;> rfl
  · simp only [right, execute, edge, ↓reduceIte] at stepped
    cases stepped
  · simp only [left, execute, origin, ↓reduceIte] at stepped
    cases stepped

/-- On a table that serves the program, no step leads in front of the program. -/
theorem standing_of_step
    {nextChannel : σ}
    (serves : table.Serves program)
    (standing : 0 ≤ machine.pc)
    (going : machine.isPast program = false)
    (stepped : machine.step console program table channel = ⟨none, next, nextChannel⟩) :
    0 ≤ next.pc := by
  cases taken : machine.tapeStep? program table with
  | some other =>
      obtain ⟨same, otherStanding⟩ :=
        step_of_tapeStep? serves standing going taken console channel
      rw [stepped] at same
      cases same
      exact otherStanding
  | none =>
      have address := pc_of_stop standing going taken stepped
      omega

theorem Path.standing
    {count : Nat}
    {last : Machine}
    {lastChannel : σ}
    (serves : table.Serves program)
    (standing : 0 ≤ machine.pc)
    (path : Path console program table count machine channel last lastChannel) :
    0 ≤ last.pc := by
  induction path with
  | refl =>
      exact standing
  | step going first _ inductionHypothesis =>
      exact inductionHypothesis (standing_of_step serves standing going first)

end Machine

end Brainfuck
