import Brainfuck.Proofs.Machine.BatchSplit

namespace Brainfuck.Machine

/-!
# Resuming batches

A batch that counts its own steps, and stops at its limit, may be resumed with
its count put aside: both counts together are that of one batch with the sum of
the limits.  This needs no table that matches the program.  It is enough that the
table has a target from zero on for each address, be it past the end.
-/

/-- The machine with its steps counted from zero. -/
def uncounted (machine : Machine) : Machine :=
  { machine with steps := 0 }

/-- The machine with a number of steps taken earlier. -/
def after
    (earlier : Nat)
    (machine : Machine) :
    Machine :=
  { machine with steps := earlier + machine.steps }

/-- A batch that counts only the steps that it takes itself. -/
def countedBatch
    (program : Program)
    (table : JumpTable)
    (limit : Nat)
    (machine : Machine) :
    StopReason × Machine :=
  runBatch program table limit machine.uncounted

/--
Whether a machine may be run in batches: its pointer is on its tape, its address
is not in front of the program, and the table has a target from zero on for each
address of the program.
-/
structure Admissible
    (program : Program)
    (table : JumpTable)
    (machine : Machine) :
    Prop where
  onTape : machine.pointer < machine.tape.size
  standing : 0 ≤ machine.pc
  targetsSize : table.targets.size = program.size
  nonnegative : ∀ target ∈ table.targets, 0 ≤ target

/-- A number of words executed one after the other, each of which needs nothing but the tape. -/
inductive TapePath
    (program : Program)
    (table : JumpTable) :
    Nat → Machine → Machine → Prop where
  | refl (machine : Machine) :
      TapePath program table 0 machine machine
  | step
      {count : Nat}
      {machine next last : Machine}
      (going : machine.isPast program = false)
      (first : machine.tapeStep? program table = some next)
      (later : TapePath program table count next last) :
      TapePath program table (count + 1) machine last

/-- The word for whose sake a batch stops, at the address where the machine stands. -/
inductive Awaits
    (program : Program)
    (machine : Machine) :
    StopReason → Prop where
  | output
      {address : Nat}
      (stands : machine.pc = address)
      (word : program.words[address]? = some 46) :
      Awaits program machine .output
  | input
      {address : Nat}
      (stands : machine.pc = address)
      (word : program.words[address]? = some 44) :
      Awaits program machine .input
  | rightEdge
      {address : Nat}
      (stands : machine.pc = address)
      (word : program.words[address]? = some 62)
      (edge : machine.tape.size ≤ machine.pointer + 1) :
      Awaits program machine .offTape
  | leftEdge
      {address : Nat}
      (stands : machine.pc = address)
      (word : program.words[address]? = some 60)
      (edge : machine.pointer = 0) :
      Awaits program machine .offTape

/-- What a batch with a limit tells about the machine that it leaves, and what `more` steps add. -/
structure Resumes
    (program : Program)
    (table : JumpTable)
    (machine : Machine)
    (limit more : Nat) :
    Prop where
  /-- A batch that stopped at its limit goes on as another one, and the steps add up. -/
  resumed : ∀ stopped,
    countedBatch program table limit machine = (.stepLimit, stopped) →
      countedBatch program table (limit + more) machine =
        ((countedBatch program table more stopped).1,
          (countedBatch program table more stopped).2.after stopped.steps)
  /-- A batch that stopped for another reason is not changed by a higher limit. -/
  settled : ∀ reason stopped,
    countedBatch program table limit machine = (reason, stopped) →
      reason ≠ .stepLimit →
        countedBatch program table (limit + more) machine = (reason, stopped)
  /-- A batch at its limit has taken as many steps, and is not past the end. -/
  limited : ∀ stopped,
    countedBatch program table limit machine = (.stepLimit, stopped) →
      stopped.steps = limit ∧ stopped.pc < program.size
  /-- The program is reported as finished exactly behind its end. -/
  finished_iff : ∀ reason stopped,
    countedBatch program table limit machine = (reason, stopped) →
      (reason = .finished ↔ program.size ≤ stopped.pc)
  /-- At any other stop a word awaits its execution, and the limit has not been reached. -/
  served : ∀ reason stopped,
    countedBatch program table limit machine = (reason, stopped) →
      reason ≠ .stepLimit → reason ≠ .finished →
        Awaits program stopped reason ∧ stopped.steps < limit
  /-- Every step that is counted is a word that was executed, and no other word was. -/
  counted : ∀ reason stopped,
    countedBatch program table limit machine = (reason, stopped) →
      TapePath program table stopped.steps machine.uncounted stopped ∧ stopped.steps ≤ limit
  /-- The machine that is left has a tape of the same size and may be run on. -/
  kept : ∀ reason stopped,
    countedBatch program table limit machine = (reason, stopped) →
      stopped.Admissible program table ∧ stopped.tape.size = machine.tape.size

variable
  {program : Program}
  {table : JumpTable}
  {machine next last : Machine}
  {count limit : Nat}

/-! Steps that were taken earlier. -/

theorem tapeStep?_after
    (earlier : Nat)
    (machine : Machine) :
    (machine.after earlier).tapeStep? program table =
      (machine.tapeStep? program table).map (after earlier) := by
  have samePc : (machine.after earlier).pc = machine.pc := rfl
  have sameCell : (machine.after earlier).cell = machine.cell := rfl
  have samePointer : (machine.after earlier).pointer = machine.pointer := rfl
  have sameTape : (machine.after earlier).tape = machine.tape := rfl
  unfold tapeStep?
  simp only [samePc, sameCell, samePointer, sameTape]
  cases program.opcodeAt? machine.pc with
  | none =>
      rfl
  | some opcode =>
      cases opcode with
      | increment | decrement | output | input =>
          rfl
      | moveRight | moveLeft | loopOpen | loopClose =>
          simp only
          split <;> rfl

/-- A batch does the same whatever steps were taken before it. -/
theorem runBatch_after
    (earlier limit : Nat)
    (machine : Machine) :
    runBatch program table limit (machine.after earlier) =
      ((runBatch program table limit machine).1,
        (runBatch program table limit machine).2.after earlier) := by
  induction limit generalizing machine with
  | zero =>
      rfl
  | succ limit inductionHypothesis =>
      have samePast : (machine.after earlier).isPast program = machine.isPast program := rfl
      have sameReason :
          (machine.after earlier).stopReason program = machine.stopReason program :=
        rfl
      rw [runBatch_succ, runBatch_succ, samePast, sameReason, tapeStep?_after]
      cases machine.isPast program with
      | true =>
          rfl
      | false =>
          cases machine.tapeStep? program table with
          | none =>
              rfl
          | some next =>
              exact inductionHypothesis next

theorem after_uncounted (machine : Machine) :
    machine.uncounted.after machine.steps = machine :=
  rfl

/-! The words that a batch executes. -/

/-- What a word that needs nothing but the tape can do to a machine. -/
inductive TapeEffect
    (table : JumpTable)
    (machine : Machine) :
    Machine → Prop where
  | advance :
      TapeEffect table machine machine.advance
  | leap :
      TapeEffect table machine (machine.leap table)
  | store (value : UInt8) :
      TapeEffect table machine (machine.store value).advance
  | point
      {pointer : Nat}
      (onTape : machine.pointer < machine.tape.size → pointer < machine.tape.size) :
      TapeEffect table machine (machine.point pointer).advance

theorem effect_of_tapeStep?
    (stepped : machine.tapeStep? program table = some next) :
    TapeEffect table machine next := by
  unfold tapeStep? at stepped
  cases found : program.opcodeAt? machine.pc with
  | none =>
      simp only [found] at stepped
      cases stepped
      exact .advance
  | some opcode =>
      simp only [found] at stepped
      cases opcode with
      | moveRight =>
          simp only at stepped
          split at stepped <;> cases stepped
          next room =>
            exact .point fun _ => room
      | moveLeft =>
          simp only at stepped
          split at stepped <;> cases stepped
          exact .point fun onTape => Nat.lt_of_le_of_lt (Nat.sub_le _ 1) onTape
      | increment | decrement =>
          cases stepped
          exact .store _
      | output | input =>
          cases stepped
      | loopOpen =>
          simp only at stepped
          split at stepped <;> cases stepped
          · exact .leap
          · exact .advance
      | loopClose =>
          simp only at stepped
          split at stepped <;> cases stepped
          · exact .advance
          · exact .leap

theorem TapeEffect.steps_eq (effect : TapeEffect table machine next) :
    next.steps = machine.steps + 1 := by
  cases effect <;> rfl

theorem TapePath.steps_eq (path : TapePath program table count machine last) :
    last.steps = machine.steps + count := by
  induction path with
  | refl =>
      rfl
  | step _ first _ inductionHypothesis =>
      rw [inductionHypothesis, (effect_of_tapeStep? first).steps_eq]
      omega

/-- A batch executes words one after the other, as many as its limit if that is why it stops. -/
theorem exists_tapePath
    (program : Program)
    (table : JumpTable)
    (limit : Nat)
    (machine : Machine) :
    ∃ count,
      TapePath program table count machine (runBatch program table limit machine).2 ∧
        count ≤ limit ∧
        ((runBatch program table limit machine).1 = .stepLimit → count = limit) ∧
        (count < limit ∨
          (runBatch program table limit machine).1 = .stepLimit ∨
          (runBatch program table limit machine).1 = .finished) := by
  induction limit generalizing machine with
  | zero =>
      refine ⟨0, .refl machine, Nat.le_refl 0, fun _ => rfl, .inr ?_⟩
      simp only [runBatch]
      split
      · exact .inr rfl
      · exact .inl rfl
  | succ limit inductionHypothesis =>
      rw [runBatch_succ]
      cases past : machine.isPast program with
      | true =>
          exact ⟨0, .refl machine, Nat.zero_le _, StopReason.noConfusion,
            .inl (Nat.succ_pos limit)⟩
      | false =>
          cases stepped : machine.tapeStep? program table with
          | none =>
              refine ⟨0, .refl machine, Nat.zero_le _, ?_, .inl (Nat.succ_pos limit)⟩
              exact fun same => absurd same (stopReason_ne_stepLimit program machine)
          | some next =>
              obtain ⟨count, path, within, full, reached⟩ := inductionHypothesis next
              refine ⟨count + 1, .step past stepped path, Nat.succ_le_succ within, ?_, ?_⟩
              · exact fun same => congrArg (· + 1) (full same)
              · exact reached.imp_left Nat.succ_lt_succ

/-- The count of a batch is the number of words that it has executed. -/
theorem tapePath_of_countedBatch
    {reason : StopReason}
    {stopped : Machine}
    (batch : countedBatch program table limit machine = (reason, stopped)) :
    TapePath program table stopped.steps machine.uncounted stopped ∧
      stopped.steps ≤ limit ∧
      (reason = .stepLimit → stopped.steps = limit) ∧
      (stopped.steps < limit ∨ reason = .stepLimit ∨ reason = .finished) := by
  obtain ⟨count, counted⟩ := exists_tapePath program table limit machine.uncounted
  unfold countedBatch at batch
  rw [batch] at counted
  have steps := counted.1.steps_eq
  rw [show machine.uncounted.steps = 0 from rfl, Nat.zero_add] at steps
  rw [steps]
  exact counted

/-- The three kinds of stop: behind the program, at the limit, or for the sake of a word. -/
theorem countedBatch_cases
    {reason : StopReason}
    {stopped : Machine}
    (batch : countedBatch program table limit machine = (reason, stopped)) :
    (reason = .finished ∧ stopped.isPast program = true) ∨
      (reason = .stepLimit ∧ stopped.isPast program = false) ∨
      (reason = stopped.stopReason program ∧ stopped.isPast program = false ∧
        stopped.tapeStep? program table = none) := by
  have stops := stops_runBatch program table limit machine.uncounted
  unfold countedBatch at batch
  rw [batch] at stops
  generalize same : (reason, stopped) = result at stops
  cases stops with
  | finished past =>
      cases same
      exact .inl ⟨rfl, past⟩
  | limited going =>
      cases same
      exact .inr (.inl ⟨rfl, going⟩)
  | served going stop =>
      cases same
      exact .inr (.inr ⟨rfl, going, stop⟩)

theorem stopReason_ne_finished
    (program : Program)
    (machine : Machine) :
    machine.stopReason program ≠ .finished := by
  unfold stopReason
  split <;> exact StopReason.noConfusion

/-- What a batch does with a higher limit. -/
theorem countedBatch_add
    (program : Program)
    (table : JumpTable)
    (limit more : Nat)
    (machine : Machine) :
    countedBatch program table (limit + more) machine =
      match countedBatch program table limit machine with
      | (.stepLimit, stopped) =>
          ((countedBatch program table more stopped).1,
            (countedBatch program table more stopped).2.after stopped.steps)
      | result => result := by
  unfold countedBatch
  rw [runBatch_add]
  rcases runBatch program table limit machine.uncounted with ⟨reason, stopped⟩
  cases reason with
  | stepLimit =>
      change runBatch program table more stopped =
        ((runBatch program table more stopped.uncounted).1,
          (runBatch program table more stopped.uncounted).2.after stopped.steps)
      rw [← runBatch_after, after_uncounted]
  | output | input | finished | offTape =>
      rfl

/-! What a batch keeps. -/

namespace Admissible

theorem leap
    (admissible : machine.Admissible program table)
    (going : machine.isPast program = false) :
    0 ≤ (machine.leap table).pc := by
  obtain ⟨offset, same, inside⟩ := exists_offset admissible.standing going
  have stored : offset < table.targets.size := by
    rw [admissible.targetsSize]
    exact inside
  have read : table.targetAt? machine.pc = some table.targets[offset] := by
    rw [same]
    exact Array.getElem?_eq_getElem stored
  have target := admissible.nonnegative _ (Array.getElem_mem stored)
  simp only [Machine.leap, behind, read, Option.getD_some]
  omega

/-- Each word leaves a machine with as large a tape, that may be run on. -/
theorem of_effect
    (admissible : machine.Admissible program table)
    (going : machine.isPast program = false)
    (effect : TapeEffect table machine next) :
    next.Admissible program table ∧ next.tape.size = machine.tape.size := by
  have ahead : 0 ≤ machine.pc + 1 := Int.le_add_one admissible.standing
  cases effect with
  | advance =>
      exact ⟨⟨admissible.onTape, ahead, admissible.targetsSize, admissible.nonnegative⟩, rfl⟩
  | leap =>
      exact ⟨⟨admissible.onTape, admissible.leap going, admissible.targetsSize,
        admissible.nonnegative⟩, rfl⟩
  | store value =>
      have size : (machine.store value).advance.tape.size = machine.tape.size :=
        Array.size_setIfInBounds
      refine ⟨⟨?_, ahead, admissible.targetsSize, admissible.nonnegative⟩, size⟩
      rw [size]
      exact admissible.onTape
  | point onTape =>
      exact ⟨⟨onTape admissible.onTape, ahead, admissible.targetsSize,
        admissible.nonnegative⟩, rfl⟩

theorem of_tapePath
    (admissible : machine.Admissible program table)
    (path : TapePath program table count machine last) :
    last.Admissible program table ∧ last.tape.size = machine.tape.size := by
  induction path with
  | refl =>
      exact ⟨admissible, rfl⟩
  | step going first _ inductionHypothesis =>
      obtain ⟨next, size⟩ := admissible.of_effect going (effect_of_tapeStep? first)
      obtain ⟨last, sameSize⟩ := inductionHypothesis next
      exact ⟨last, sameSize.trans size⟩

/-- In front of a word that needs more than the tape, a batch tells which one it is. -/
theorem awaits
    (admissible : machine.Admissible program table)
    (going : machine.isPast program = false)
    (stop : machine.tapeStep? program table = none) :
    Awaits program machine (machine.stopReason program) := by
  obtain ⟨address, stands, inside⟩ := exists_offset admissible.standing going
  have spelled
      {opcode : Opcode}
      (found : program.opcodeAt? machine.pc = some opcode) :
      program.words[address]? = some opcode.word := by
    rw [stands, Program.opcodeAt?_of_lt inside, Opcode.ofWord?_eq_some_iff] at found
    rw [Array.getElem?_eq_getElem inside, found]
  unfold stopReason
  rcases opcodeAt?_of_stop stop with output | input | ⟨right, edge⟩ | ⟨left, edge⟩
  · rw [output]
    exact .output stands (spelled output)
  · rw [input]
    exact .input stands (spelled input)
  · rw [right]
    exact .rightEdge stands (spelled right) (Nat.le_of_not_lt edge)
  · rw [left]
    exact .leftEdge stands (spelled left) edge

end Admissible

/-- Batches may be split anywhere, and their reasons are exact. -/
theorem resumes_of_admissible
    (admissible : machine.Admissible program table)
    (limit more : Nat) :
    Resumes program table machine limit more := by
  have uncounted : machine.uncounted.Admissible program table :=
    ⟨admissible.onTape, admissible.standing, admissible.targetsSize, admissible.nonnegative⟩
  refine ⟨?resumed, ?settled, ?limited, ?finished, ?served, ?counted, ?kept⟩
  case resumed =>
    intro stopped batch
    rw [countedBatch_add, batch]
  case settled =>
    intro reason stopped batch other
    rw [countedBatch_add, batch]
    cases reason with
    | stepLimit =>
        exact absurd rfl other
    | output | input | finished | offTape =>
        rfl
  case limited =>
    intro stopped batch
    obtain ⟨_, _, full, _⟩ := tapePath_of_countedBatch batch
    refine ⟨full rfl, ?_⟩
    rcases countedBatch_cases batch with ⟨finished, _⟩ | ⟨_, going⟩ | ⟨served, _⟩
    · cases finished
    · exact Int.not_le.mp (of_decide_eq_false going)
    · exact absurd served.symm (stopReason_ne_stepLimit program stopped)
  case finished =>
    intro reason stopped batch
    rcases countedBatch_cases batch with ⟨rfl, past⟩ | ⟨rfl, going⟩ | ⟨rfl, going, _⟩
    · exact iff_of_true rfl (of_decide_eq_true past)
    · exact iff_of_false nofun (of_decide_eq_false going)
    · exact iff_of_false (stopReason_ne_finished program stopped) (of_decide_eq_false going)
  case served =>
    intro reason stopped batch notLimited notFinished
    obtain ⟨path, _, _, reached⟩ := tapePath_of_countedBatch batch
    obtain ⟨left, _⟩ := uncounted.of_tapePath path
    have below := reached.resolve_right (not_or.mpr ⟨notLimited, notFinished⟩)
    rcases countedBatch_cases batch with ⟨finished, _⟩ | ⟨limited, _⟩ | ⟨rfl, going, stop⟩
    · exact absurd finished notFinished
    · exact absurd limited notLimited
    · exact ⟨left.awaits going stop, below⟩
  case counted =>
    intro reason stopped batch
    obtain ⟨path, within, _⟩ := tapePath_of_countedBatch batch
    exact ⟨path, within⟩
  case kept =>
    intro reason stopped batch
    exact uncounted.of_tapePath (tapePath_of_countedBatch batch).1

/--
A closing bracket whose target lies past the end: the limit falls in front of the jump,
and the batch that goes on comes to the end.
-/
theorem resumes_jump_past_end :
    ∃ program table machine,
      program = Program.mk #[43, 93, 46] ∧
        table = JumpTable.mk #[0, 7, 2] #[] ∧
        machine = Machine.mk #[0] 0 0 5 ∧
        machine.Admissible program table ∧
        Resumes program table machine 1 2 ∧
        countedBatch program table 1 machine = (.stepLimit, ⟨#[1], 0, 1, 1⟩) ∧
        countedBatch program table 3 machine = (.finished, ⟨#[1], 0, 8, 2⟩) := by
  have admissible :
      (Machine.mk #[0] 0 0 5).Admissible (.mk #[43, 93, 46]) (.mk #[0, 7, 2] #[]) :=
    ⟨by decide, by decide, rfl, by decide⟩
  exact ⟨_, _, _, rfl, rfl, rfl, admissible, resumes_of_admissible admissible 1 2, by decide,
    by decide⟩

end Brainfuck.Machine
