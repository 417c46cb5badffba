import Brainfuck.Proofs.Machine.Batch

namespace Brainfuck.Machine

/-!
# Machines that fit their program

On a table that matches the brackets of its program, a machine whose pointer is
on its tape and whose address is one of the program, or its end, stays such a
machine.  A step of it fails in four ways only: the input fails, the output
fails, or a move would leave the tape at either end.
-/

variable
  {σ : Type}
  {console : Console σ}
  {program : Program}
  {table : JumpTable}
  {machine last : Machine}
  {channel lastChannel : σ}
  {cells : Nat}

/--
Whether a machine has a tape of a number of cells with its pointer on one of
them, and stands at an address of a program or at its end.
-/
structure Fits
    (machine : Machine)
    (program : Program)
    (cells : Nat) :
    Prop where
  tapeSize : machine.tape.size = cells
  pointer : machine.pointer < cells
  standing : 0 ≤ machine.pc
  within : machine.pc ≤ program.size

namespace Fits

theorem onTape (fits : machine.Fits program cells) :
    machine.pointer < machine.tape.size := by
  rw [fits.tapeSize]
  exact fits.pointer

theorem start
    (program : Program)
    (positive : 0 < cells) :
    (Machine.start (Array.replicate cells 0)).Fits program cells where
  tapeSize := Array.size_replicate
  pointer := positive
  standing := Int.le_refl 0
  within := Int.natCast_nonneg program.size

theorem behind
    {offset : Nat}
    (fits : machine.Fits program cells)
    (inside : offset < program.size) :
    (machine.behind offset).Fits program cells where
  tapeSize := fits.tapeSize
  pointer := fits.pointer
  standing := Int.natCast_nonneg (offset + 1)
  within := Int.ofNat_le.mpr inside

theorem store
    (fits : machine.Fits program cells)
    (value : UInt8) :
    (machine.store value).Fits program cells where
  tapeSize := Array.size_setIfInBounds.trans fits.tapeSize
  pointer := fits.pointer
  standing := fits.standing
  within := fits.within

theorem point
    {pointer : Nat}
    (fits : machine.Fits program cells)
    (onTape : pointer < cells) :
    (machine.point pointer).Fits program cells where
  tapeSize := fits.tapeSize
  pointer := onTape
  standing := fits.standing
  within := fits.within

theorem advance
    (fits : machine.Fits program cells)
    (going : machine.isPast program = false) :
    machine.advance.Fits program cells := by
  obtain ⟨offset, same, inside⟩ := exists_offset fits.standing going
  have next := fits.behind inside
  rw [← same] at next
  exact next

end Fits

/-- Why a word fails, and the state of the console then. -/
inductive Obstacle
    (console : Console σ)
    (program : Program)
    (machine : Machine)
    (channel : σ) :
    Failure → σ → Prop where
  | input
      {cause : SystemError}
      {next : σ}
      (found : program.opcodeAt? machine.pc = some .input)
      (answered : console.read channel = (.failure cause, next)) :
      Obstacle console program machine channel (.inputFailed cause) next
  | output
      {cause : SystemError}
      {next : σ}
      (found : program.opcodeAt? machine.pc = some .output)
      (written : console.write machine.cell channel = (.error cause, next)) :
      Obstacle console program machine channel (.outputFailed cause) next
  | rightEdge
      (found : program.opcodeAt? machine.pc = some .moveRight)
      (edge : machine.tape.size ≤ machine.pointer + 1) :
      Obstacle console program machine channel
        (boundsFailure program machine.pc (machine.pointer + 1) machine.tape.size) channel
  | leftEdge
      (found : program.opcodeAt? machine.pc = some .moveLeft)
      (edge : machine.pointer = 0) :
      Obstacle console program machine channel
        (boundsFailure program machine.pc (-1) machine.tape.size) channel

theorem isPast_of_opcodeAt?
    {opcode : Opcode}
    (standing : 0 ≤ machine.pc)
    (found : program.opcodeAt? machine.pc = some opcode) :
    machine.isPast program = false := by
  obtain ⟨offset, same⟩ := Int.eq_ofNat_of_zero_le standing
  rw [same] at found
  have inside := Program.lt_size_of_opcodeAt? found
  apply decide_eq_false
  omega

/-- Where a move off the tape is not reported as such, the program has no source text. -/
theorem boundsFailure_cases
    (program : Program)
    (address pointer : Int)
    (tapeSize : Nat) :
    (∃ source, program.toSource = .ok source ∧
      boundsFailure program address pointer tapeSize =
        .tapeBounds { address, pointer, tapeSize, source }) ∨
      ∃ byte position,
        boundsFailure program address pointer tapeSize = .notAscii byte position := by
  unfold boundsFailure
  cases shown : program.toSource with
  | ok source =>
      exact .inl ⟨source, rfl, rfl⟩
  | error failure =>
      right
      unfold Program.toSource Program.asciiText at shown
      split at shown <;> cases shown
      exact ⟨_, _, rfl⟩

theorem boundsFailure_ne_inputFailed
    {address pointer : Int}
    {tapeSize : Nat}
    {cause : SystemError} :
    boundsFailure program address pointer tapeSize ≠ .inputFailed cause := by
  rcases boundsFailure_cases program address pointer tapeSize with
    ⟨_, _, same⟩ | ⟨_, _, same⟩ <;>
    rw [same] <;> exact Failure.noConfusion

theorem boundsFailure_ne_outputFailed
    {address pointer : Int}
    {tapeSize : Nat}
    {cause : SystemError} :
    boundsFailure program address pointer tapeSize ≠ .outputFailed cause := by
  rcases boundsFailure_cases program address pointer tapeSize with
    ⟨_, _, same⟩ | ⟨_, _, same⟩ <;>
    rw [same] <;> exact Failure.noConfusion

/-- There are no obstacles behind the end of a program. -/
theorem Obstacle.going
    {failure : Failure}
    (standing : 0 ≤ machine.pc)
    (obstacle : Obstacle console program machine channel failure lastChannel) :
    machine.isPast program = false := by
  cases obstacle with
  | input found _ | output found _ | rightEdge found _ | leftEdge found _ =>
      exact isPast_of_opcodeAt? standing found

theorem obstacle_inputFailed_iff
    {cause : SystemError} :
    Obstacle console program machine channel (.inputFailed cause) lastChannel ↔
      program.opcodeAt? machine.pc = some .input ∧
        console.read channel = (.failure cause, lastChannel) := by
  constructor
  · intro obstacle
    generalize failed : Failure.inputFailed cause = failure at obstacle
    cases obstacle with
    | input found answered =>
        cases failed
        exact ⟨found, answered⟩
    | output =>
        cases failed
    | rightEdge | leftEdge =>
        exact absurd failed.symm boundsFailure_ne_inputFailed
  · rintro ⟨found, answered⟩
    exact .input found answered

theorem obstacle_outputFailed_iff
    {cause : SystemError} :
    Obstacle console program machine channel (.outputFailed cause) lastChannel ↔
      program.opcodeAt? machine.pc = some .output ∧
        console.write machine.cell channel = (.error cause, lastChannel) := by
  constructor
  · intro obstacle
    generalize failed : Failure.outputFailed cause = failure at obstacle
    cases obstacle with
    | output found written =>
        cases failed
        exact ⟨found, written⟩
    | input =>
        cases failed
    | rightEdge | leftEdge =>
        exact absurd failed.symm boundsFailure_ne_outputFailed
  · rintro ⟨found, written⟩
    exact .output found written

/-- A move off the tape is only reported as such in a program that has source text. -/
theorem Obstacle.exists_toSource
    {fault : BoundsFault}
    (obstacle : Obstacle console program machine channel (.tapeBounds fault) lastChannel) :
    ∃ source, program.toSource = .ok source := by
  have reported
      {attempted : Int}
      (same :
        .tapeBounds fault =
          boundsFailure program machine.pc attempted machine.tape.size) :
      ∃ source, program.toSource = .ok source := by
    rcases boundsFailure_cases program machine.pc attempted machine.tape.size with
      ⟨source, shown, _⟩ | ⟨_, _, unshown⟩
    · exact ⟨source, shown⟩
    · rw [unshown] at same
      cases same
  generalize failed : Failure.tapeBounds fault = failure at obstacle
  cases obstacle with
  | input | output =>
      cases failed
  | rightEdge | leftEdge =>
      exact reported failed

/-- An obstacle lets the step fail and leaves the machine as it is. -/
theorem Obstacle.step_eq
    {failure : Failure}
    (standing : 0 ≤ machine.pc)
    (obstacle : Obstacle console program machine channel failure lastChannel) :
    machine.step console program table channel = ⟨some failure, machine, lastChannel⟩ := by
  rw [Machine.step_eq standing (obstacle.going standing)]
  cases obstacle with
  | input found answered =>
      simp only [found, execute, answered, refuse]
  | output found written =>
      simp only [found, execute, written, refuse]
  | rightEdge found edge =>
      simp only [found, execute, Nat.not_lt.mpr edge, ↓reduceIte, refuse]
  | leftEdge found edge =>
      simp only [found, execute, edge, ↓reduceIte, refuse]

/--
What a step can do on a table that matches its program: it succeeds with a
machine that fits again, or it meets an obstacle.
-/
theorem Fits.step_cases
    (matching : table.Matches program)
    (fits : machine.Fits program cells)
    (going : machine.isPast program = false)
    (console : Console σ)
    (channel : σ) :
    (∃ next nextChannel,
      machine.step console program table channel = ⟨none, next, nextChannel⟩ ∧
        next.Fits program cells) ∨
      ∃ failure nextChannel,
        Obstacle console program machine channel failure nextChannel := by
  obtain ⟨offset, same, inside⟩ := exists_offset fits.standing going
  by_cases bracket : program.HasBracket offset
  · left
    obtain ⟨other, loop | loop⟩ := matching.partner offset bracket
    · refine ⟨_, _, step_of_isLoop matching loop (.inl same) console channel, fits.behind ?_⟩
      split
      · exact loop.last_lt_size
      · exact inside
    · refine ⟨_, _, step_of_isLoop matching loop (.inr same) console channel, fits.behind ?_⟩
      split
      · exact inside
      · exact Nat.lt_trans loop.ordered loop.last_lt_size
  · rw [step_eq fits.standing going]
    cases found : program.opcodeAt? machine.pc with
    | none =>
        exact .inl ⟨_, _, rfl, fits.advance going⟩
    | some opcode =>
        cases opcode with
        | loopOpen =>
            exact absurd (.inl (same ▸ found)) bracket
        | loopClose =>
            exact absurd (.inr (same ▸ found)) bracket
        | increment | decrement =>
            exact .inl ⟨_, _, rfl, (fits.store _).advance going⟩
        | moveRight =>
            by_cases room : machine.pointer + 1 < machine.tape.size
            · simp only [execute, room, ↓reduceIte]
              rw [fits.tapeSize] at room
              exact .inl ⟨_, _, rfl, (fits.point room).advance going⟩
            · exact .inr ⟨_, _, .rightEdge found (Nat.le_of_not_lt room)⟩
        | moveLeft =>
            by_cases edge : machine.pointer = 0
            · exact .inr ⟨_, _, .leftEdge found edge⟩
            · simp only [execute, edge, ↓reduceIte]
              have onTape := fits.pointer
              exact .inl ⟨_, _, rfl, (fits.point (by omega)).advance going⟩
        | output =>
            cases written : console.write machine.cell channel with
            | mk result next =>
                cases result with
                | ok _ =>
                    simp only [execute, written]
                    exact .inl ⟨_, _, rfl, fits.advance going⟩
                | error cause =>
                    exact .inr ⟨_, _, .output found written⟩
        | input =>
            cases answered : console.read channel with
            | mk reading next =>
                cases reading with
                | number value =>
                    simp only [execute, answered]
                    exact .inl ⟨_, _, rfl, (fits.store _).advance going⟩
                | endOfInput =>
                    simp only [execute, answered]
                    exact .inl ⟨_, _, rfl, fits.advance going⟩
                | failure cause =>
                    exact .inr ⟨_, _, .input found answered⟩

/-- A step fails exactly when it meets an obstacle, and leaves the machine as it is. -/
theorem Fits.step_eq_failure_iff
    {failure : Failure}
    (matching : table.Matches program)
    (fits : machine.Fits program cells)
    (going : machine.isPast program = false) :
    machine.step console program table channel = ⟨some failure, last, lastChannel⟩ ↔
      last = machine ∧ Obstacle console program machine channel failure lastChannel := by
  constructor
  · intro fails
    rcases fits.step_cases matching going console channel with
      ⟨_, _, stepped, _⟩ | ⟨other, otherChannel, obstacle⟩
    · rw [stepped] at fails
      cases fails
    · rw [obstacle.step_eq fits.standing] at fails
      cases fails
      exact ⟨rfl, obstacle⟩
  · rintro ⟨rfl, obstacle⟩
    exact obstacle.step_eq fits.standing

theorem Fits.step
    {failure : Option Failure}
    (matching : table.Matches program)
    (fits : machine.Fits program cells)
    (going : machine.isPast program = false)
    (stepped : machine.step console program table channel = ⟨failure, last, lastChannel⟩) :
    last.Fits program cells := by
  rcases fits.step_cases matching going console channel with
    ⟨next, nextChannel, succeeds, nextFits⟩ | ⟨other, otherChannel, obstacle⟩
  · rw [stepped] at succeeds
    cases succeeds
    exact nextFits
  · rw [obstacle.step_eq fits.standing] at stepped
    cases stepped
    exact fits

/-- A path leads from a machine that fits its program to one that does. -/
theorem Path.fits
    {count : Nat}
    (matching : table.Matches program)
    (fits : machine.Fits program cells)
    (path : Path console program table count machine channel last lastChannel) :
    last.Fits program cells := by
  induction path with
  | refl =>
      exact fits
  | step going first _ inductionHypothesis =>
      exact inductionHypothesis (fits.step matching going first)

/-- No step leads out of the addresses of a program and its end. -/
theorem pc_le_size_of_step
    (matching : table.Matches program)
    (standing : 0 ≤ machine.pc)
    (going : machine.isPast program = false)
    (stepped : machine.step console program table channel = ⟨none, last, lastChannel⟩) :
    last.pc ≤ program.size := by
  obtain ⟨offset, same, inside⟩ := exists_offset standing going
  by_cases bracket : program.HasBracket offset
  · have landed {one other : Nat}
        (loop : program.IsLoop one other)
        (stands : machine.pc = one ∨ machine.pc = other) :
        last.pc ≤ program.size := by
      have ordered := loop.ordered
      have bound := loop.last_lt_size
      rw [step_of_isLoop matching loop stands console channel] at stepped
      cases stepped
      simp only [behind]
      split <;> omega
    obtain ⟨other, loop | loop⟩ := matching.partner offset bracket
    · exact landed loop (.inl same)
    · exact landed loop (.inr same)
  · have next : last.pc = machine.pc + 1 := by
      cases taken : machine.tapeStep? program table with
      | none =>
          exact pc_of_stop standing going taken stepped
      | some other =>
          obtain ⟨succeeds, _⟩ :=
            step_of_tapeStep? matching.serves standing going taken console channel
          rw [stepped] at succeeds
          cases succeeds
          unfold tapeStep? at taken
          split at taken
          · split at taken <;> cases taken
            rfl
          · split at taken <;> cases taken
            rfl
          · cases taken
            rfl
          · cases taken
            rfl
          · cases taken
          · cases taken
          · next opens =>
              exact absurd (.inl (same ▸ opens)) bracket
          · next closes =>
              exact absurd (.inr (same ▸ closes)) bracket
          · cases taken
            rfl
    omega

/-- A path that leads past the end of a program leads to its end. -/
theorem Path.pc_eq_size
    {count : Nat}
    (matching : table.Matches program)
    (standing : 0 ≤ machine.pc)
    (within : machine.pc ≤ program.size)
    (path : Path console program table count machine channel last lastChannel)
    (past : last.isPast program = true) :
    last.pc = program.size := by
  have bound : last.pc ≤ program.size := by
    induction path with
    | refl =>
        exact within
    | step going first _ inductionHypothesis =>
        exact inductionHypothesis (standing_of_step matching.serves standing going first)
          (pc_le_size_of_step matching standing going first) past
  have reached := of_decide_eq_true past
  omega

end Brainfuck.Machine
