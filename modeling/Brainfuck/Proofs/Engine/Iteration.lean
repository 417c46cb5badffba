import Brainfuck.Proofs.Engine.Sequence

namespace Brainfuck.Engine

/-!
# A program in a loop

A program in brackets is executed again and again, each time from where it has
come to its end, until the current cell is zero.  The opening bracket takes a
step once and the closing bracket one step each time.  The rounds are executions
of the program in the brackets as one of its own.
-/

variable {σ : Type}

/--
A number of rounds, each of which begins on a cell that is not zero and comes to
its end, and the steps that they take with the closing bracket behind each.
-/
inductive Rounds
    (body : Engine)
    (console : Console σ)
    (origin : Machine)
    (channel : σ) :
    Nat → Nat → Machine → σ × List Exchange → Prop where
  | start :
      Rounds body console origin channel 0 0 origin.rewound (channel, [])
  | more
      {count steps : Nat}
      {machine last : Machine}
      {current lastChannel : σ}
      {said answered : List Exchange}
      (earlier : Rounds body console origin channel count steps machine (current, said))
      (nonzero : machine.cell ≠ 0)
      (finishes : body.Executes console.traced machine.rewound (current, []) .finished last
        (lastChannel, answered)) :
      Rounds body console origin channel (count + 1) (steps + (last.steps + 1)) last.rewound
        (lastChannel, said ++ answered)

/--
How a loop ends: with a round that leaves zero in the current cell, or before
the first one, or where a round fails.
-/
inductive Iteration
    (body : Engine)
    (source : String)
    (console : Console σ)
    (origin : Machine)
    (channel : σ) :
    Ending → Machine → σ × List Exchange → Prop where
  | finished
      {count steps : Nat}
      {machine : Machine}
      {left : σ × List Exchange}
      (rounds : Rounds body console origin channel count steps machine left)
      (zero : machine.cell = 0) :
      Iteration body source console origin channel .finished
        (machine.relocated (body.program.size + 2) (1 + steps)) left
  | failed
      {count steps : Nat}
      {machine last : Machine}
      {current lastChannel : σ}
      {said answered : List Exchange}
      {failure : Failure}
      (rounds : Rounds body console origin channel count steps machine (current, said))
      (nonzero : machine.cell ≠ 0)
      (fails : body.Executes console.traced machine.rewound (current, []) (.failed failure)
        last (lastChannel, answered)) :
      Iteration body source console origin channel (.failed (failure.relocated source 1))
        (last.relocated 1 (1 + steps)) (lastChannel, said ++ answered)

/-- How a loop goes on for ever: with a round that does, or with one round after the other. -/
inductive EndlessIteration
    (body : Engine)
    (console : Console σ)
    (origin : Machine)
    (channel : σ) :
    Prop where
  | inside
      {count steps : Nat}
      {machine : Machine}
      {current : σ}
      {said : List Exchange}
      (rounds : Rounds body console origin channel count steps machine (current, said))
      (nonzero : machine.cell ≠ 0)
      (diverges : body.Diverges console.traced machine.rewound (current, [])) :
      EndlessIteration body console origin channel
  | always
      (rounds : ∀ count, ∃ steps machine left,
        Rounds body console origin channel count steps machine left) :
      EndlessIteration body console origin channel

/-- Whether a program repeats another one as long as the current cell is not zero. -/
structure IsIteration
    (body whole : Engine)
    (source : String)
    (console : Console σ) :
    Prop where
  /-- On a zero, the loop takes one step, which leads behind it and changes nothing else. -/
  skips : ∀ (origin : Machine) channel ending last left, origin.cell = 0 →
    (whole.Executes console.traced origin.rewound (channel, []) ending last left ↔
      ending = .finished ∧
        last = { origin with pc := body.program.size + 2, steps := 1 } ∧
        left = (channel, []))
  /-- The loop ends exactly as its rounds do. -/
  executes_iff : ∀ (origin : Machine) channel ending last left,
    whole.Executes console.traced origin.rewound (channel, []) ending last left ↔
      Iteration body source console origin channel ending last left
  /-- The loop goes on for ever exactly when its rounds do. -/
  diverges_iff : ∀ (origin : Machine) channel,
    whole.Diverges console.traced origin.rewound (channel, []) ↔
      EndlessIteration body console origin channel
  /-- The loop comes through all that a round comes through. -/
  passes : ∀ (origin : Machine) channel count steps machine current said other
      otherChannel answered,
    Rounds body console origin channel count steps machine (current, said) →
      machine.cell ≠ 0 →
        body.Passes console.traced machine.rewound (current, []) other
            (otherChannel, answered) →
          whole.Passes console.traced origin.rewound (channel, [])
            (other.relocated 1 (1 + steps)) (otherChannel, said ++ answered)

/-- The rounds of a loop end, or they go on for ever. -/
theorem exists_iteration_or_endless
    (body : Engine)
    (source : String)
    (console : Console σ)
    (origin : Machine)
    (channel : σ) :
    (∃ ending last left, Iteration body source console origin channel ending last left) ∨
      EndlessIteration body console origin channel := by
  by_cases ends : ∃ ending last left,
    Iteration body source console origin channel ending last left
  · exact .inl ends
  · right
    -- No round fails or leaves zero behind, so that only a round that never ends stops the rounds.
    by_cases stuck : ∃ count steps machine current said,
      Rounds body console origin channel count steps machine (current, said) ∧
        machine.cell ≠ 0 ∧
          body.Diverges console.traced machine.rewound (current, [])
    · obtain ⟨count, steps, machine, current, said, rounds, nonzero, diverges⟩ := stuck
      exact .inside rounds nonzero diverges
    · refine .always ?_
      intro count
      induction count with
      | zero =>
          exact ⟨_, _, _, .start⟩
      | succ count inductionHypothesis =>
          obtain ⟨steps, machine, ⟨current, said⟩, rounds⟩ := inductionHypothesis
          have nonzero : machine.cell ≠ 0 := by
            intro zero
            exact ends ⟨_, _, _, .finished rounds zero⟩
          rcases exists_executes_or_diverges body console.traced machine.rewound
              (current, []) with
            ⟨ending, last, ⟨lastChannel, answered⟩, executes⟩ | diverges
          · cases ending with
            | finished =>
                exact ⟨_, _, _, .more rounds nonzero executes⟩
            | failed failure =>
                exact absurd ⟨_, _, _, .failed rounds nonzero executes⟩ ends
            | unfinished =>
                exact absurd rfl executes.1
          · exact absurd ⟨_, _, _, _, _, rounds, nonzero, diverges⟩ stuck

section

variable
  {engine : Engine}
  {code : List Opcode}
  {table loopTable : JumpTable}
  {source : String}
  {console : Console σ}
  {origin machine last : Machine}
  {channel current lastChannel : σ}
  {left : σ × List Exchange}
  {said answered : List Exchange}
  {ending : Ending}
  {count steps : Nat}

theorem Rounds.rewound_eq
    {body : Engine}
    (rounds : Rounds body console origin channel count steps machine left) :
    machine.rewound = machine := by
  cases rounds <;> rfl

theorem Rounds.count_le
    {body : Engine}
    (rounds : Rounds body console origin channel count steps machine left) :
    count ≤ steps := by
  induction rounds with
  | start =>
      exact Nat.le_refl 0
  | more _ _ _ inductionHypothesis =>
      omega

/-- Where either bracket of a loop leads. -/
def behindBracket
    (code : List Opcode)
    (machine : Machine) :
    Nat :=
  if machine.cell = 0 then code.length + 2 else 1

variable
  (shown : (Program.ofOpcodes (loopAround code)).toSource = .ok source)
  (positive : 0 < engine.batchSteps)
  (loop : (Program.ofOpcodes (loopAround code)).IsLoop 0 (code.length + 1))
  (part : IsPart 1 code table (loopAround code) loopTable)

theorem relocated_behindBracket
    (nonzero : machine.cell ≠ 0)
    (rewound : machine.rewound = machine)
    (steps : Nat) :
    machine.relocated (behindBracket code machine) steps = machine.rewound.relocated 1 steps := by
  rw [rewound, behindBracket, if_neg nonzero]

include loop part

theorem path_bracket
    (stands : machine.pc = 0 ∨ machine.pc = (code.length + 1 : Nat))
    (left : σ × List Exchange) :
    Machine.Path console.traced (.ofOpcodes (loopAround code)) loopTable 1 machine left
      (machine.rewound.relocated (behindBracket code machine) (machine.steps + 1)) left := by
  have bound := loop.last_lt_size
  have going : machine.isPast (.ofOpcodes (loopAround code)) = false := by
    apply decide_eq_false
    omega
  have stepped :=
    Machine.step_of_isLoop part.wholeMatching loop stands console.traced left
  have landed :
      machine.behind (if machine.cell = 0 then code.length + 1 else 0 : Nat) =
        machine.rewound.relocated (behindBracket code machine) (machine.steps + 1) := by
    unfold behindBracket
    split <;> simp [Machine.behind, Machine.relocated, Machine.rewound]
    omega
  rw [landed] at stepped
  exact .step going stepped (.refl _ _)

include positive

/-- The rounds lead where the brackets lead from the last of them. -/
theorem Rounds.path
    (rounds : Rounds (engine.holding code table) console origin channel count steps machine
      left) :
    Machine.Path console.traced (.ofOpcodes (loopAround code)) loopTable (1 + steps)
      origin.rewound (channel, [])
      (machine.relocated (behindBracket code machine) (1 + steps)) left := by
  induction rounds with
  | start =>
      exact path_bracket loop part (.inl rfl) (channel, [])
  | @more count steps machine last current lastChannel said answered earlier nonzero finishes
      inductionHypothesis =>
      obtain ⟨length, ends⟩ := (executes_holding_iff positive part.matching).mp finishes
      cases ends with
      | finished inner past =>
          have counted : last.steps = 0 + length := inner.steps_eq
          have reached := inner.pc_eq_size part.matching (Int.le_refl 0) (Int.natCast_nonneg _)
            past
          rw [Program.size_ofOpcodes] at reached
          have atClose : (last.relocated 1 (1 + steps)).pc = (code.length + 1 : Nat) := by
            simp only [Machine.relocated, reached]
            omega
          -- Into the brackets, through the round, and over the closing bracket.
          have round := part.path_relocated (Int.le_refl 0) inner (1 + steps) said
          rw [traceBehind_nil] at round
          rw [relocated_behindBracket nonzero earlier.rewound_eq] at inductionHypothesis
          have closed := (inductionHypothesis.append round).append
            (path_bracket loop part (.inr atClose) _)
          have total :
              (last.relocated 1 (1 + steps)).steps + 1 = 1 + (steps + (last.steps + 1)) := by
            simp only [Machine.relocated]
            omega
          rw [total] at closed
          rw [show 1 + steps + length + 1 = 1 + (steps + (last.steps + 1)) by omega] at closed
          exact closed

/-- As long as the current cell is not zero, the rounds lead into the brackets again. -/
theorem Rounds.path_inside
    (rounds : Rounds (engine.holding code table) console origin channel count steps machine
      (current, said))
    (nonzero : machine.cell ≠ 0) :
    Machine.Path console.traced (.ofOpcodes (loopAround code)) loopTable (1 + steps)
      origin.rewound (channel, []) (machine.rewound.relocated 1 (1 + steps))
      (traceBehind said (current, [])) := by
  rw [← relocated_behindBracket nonzero rounds.rewound_eq, traceBehind_nil]
  exact rounds.path positive loop part

theorem Iteration.executes
    (shown : (Program.ofOpcodes (loopAround code)).toSource = .ok source)
    (iteration : Iteration (engine.holding code table) source console origin channel ending
      last left) :
    (engine.holding (loopAround code) loopTable).Executes console.traced origin.rewound
      (channel, []) ending last left := by
  apply (executes_holding_iff positive part.wholeMatching).mpr
  cases iteration with
  | @finished count steps machine left rounds zero =>
      have path := rounds.path positive loop part
      rw [behindBracket, if_pos zero] at path
      rw [size_holding]
      refine ⟨1 + steps, .finished path ?_⟩
      have address : machine.pc = 0 := congrArg Machine.pc rounds.rewound_eq.symm
      simp only [Machine.isPast, Machine.relocated, Program.size_ofOpcodes, length_loopAround,
        address, decide_eq_true_eq]
      omega
  | @failed count steps machine last current lastChannel said answered failure rounds nonzero
      fails =>
      obtain ⟨length, ends⟩ := (executes_holding_iff positive part.matching).mp fails
      have moved := part.ends_failed_relocated shown (Int.le_refl 0) ends (1 + steps) said
      exact ⟨_, (rounds.path_inside positive loop part nonzero).ends moved⟩

theorem diverges_of_endlessIteration
    (endless : EndlessIteration (engine.holding code table) console origin channel) :
    (engine.holding (loopAround code) loopTable).Diverges console.traced origin.rewound
      (channel, []) := by
  apply (diverges_holding_iff positive part.wholeMatching).mpr
  intro length
  cases endless with
  | @inside count steps machine current said rounds nonzero diverges =>
      obtain ⟨last, left, inner⟩ :=
        (diverges_holding_iff positive part.matching).mp diverges length
      have moved := part.path_relocated (Int.le_refl 0) inner (1 + steps) said
      exact ((rounds.path_inside positive loop part nonzero).append moved).exists_take
        (Nat.le_add_left length (1 + steps))
  | always rounds =>
      obtain ⟨steps, machine, left, enough⟩ := rounds length
      exact (enough.path positive loop part).exists_take
        (Nat.le_trans enough.count_le (Nat.le_add_left steps 1))

theorem isIteration_loopAround
    (shown : (Program.ofOpcodes (loopAround code)).toSource = .ok source) :
    IsIteration (engine.holding code table) (engine.holding (loopAround code) loopTable) source
      console := by
  have executes_iff (origin : Machine) (channel : σ) (ending : Ending) (last : Machine)
      (left : σ × List Exchange) :
      (engine.holding (loopAround code) loopTable).Executes console.traced origin.rewound
          (channel, []) ending last left ↔
        Iteration (engine.holding code table) source console origin channel ending last
          left := by
    constructor
    · intro executes
      rcases exists_iteration_or_endless (engine.holding code table) source console origin
          channel with
        ⟨other, otherLast, otherLeft, iteration⟩ | endless
      · have same := iteration.executes positive loop part shown
        obtain ⟨rfl, rfl, rfl⟩ :=
          executes_holding_unique positive part.wholeMatching executes same
        exact iteration
      · exact absurd executes
          (diverges_of_endlessIteration positive loop part endless ending last left)
    · intro iteration
      exact iteration.executes positive loop part shown
  constructor
  case executes_iff =>
    exact executes_iff
  case skips =>
    intro origin channel ending last left zero
    have same :
        origin.rewound.relocated ((engine.holding code table).program.size + 2) 1 =
          { origin with pc := (engine.holding code table).program.size + 2, steps := 1 } := by
      simp [Machine.relocated, Machine.rewound]
    have skipped := (executes_iff origin channel _ _ _).mpr (.finished .start zero)
    rw [Nat.add_zero, same] at skipped
    constructor
    · intro executes
      exact executes_holding_unique positive part.wholeMatching executes skipped
    · rintro ⟨rfl, rfl, rfl⟩
      exact skipped
  case diverges_iff =>
    intro origin channel
    constructor
    · intro diverges
      rcases exists_iteration_or_endless (engine.holding code table) source console origin
          channel with
        ⟨ending, last, left, iteration⟩ | endless
      · exact absurd ((executes_iff origin channel ending last left).mpr iteration)
          (diverges ending last left)
      · exact endless
    · exact diverges_of_endlessIteration positive loop part
  case passes =>
    intro origin channel count steps machine current said other otherChannel answered rounds
      nonzero passes
    obtain ⟨length, inner⟩ := (passes_holding_iff positive part.matching).mp passes
    have moved := part.path_relocated (Int.le_refl 0) inner (1 + steps) said
    exact (passes_holding_iff positive part.wholeMatching).mpr
      ⟨_, (rounds.path_inside positive loop part nonzero).append moved⟩

end

end Brainfuck.Engine
