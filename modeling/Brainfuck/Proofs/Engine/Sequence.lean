import Brainfuck.Proofs.Engine.Course
import Brainfuck.Proofs.Machine.Relocation

namespace Brainfuck.Engine

/-!
# One program behind another

Two programs that are put one behind the other do what the first one does and,
if it comes to its end, what the second one does from there.  Each of them knows
nothing of the other: the tables are resolved apart, and the second program is
run as one of its own, from the first address on.
-/

/-- The engine with the same settings for another program with its table. -/
def holding
    (engine : Engine)
    (opcodes : List Opcode)
    (table : JumpTable) :
    Engine :=
  { engine with program := .ofOpcodes opcodes, table }

variable {σ : Type}

/--
How two executions, one after the other, end together: as the first one if it
fails, or else as the second one from where the first one has come to its end.
-/
inductive Sequence
    (first second : Engine)
    (source : String)
    (console : Console σ)
    (origin : Machine)
    (channel : σ) :
    Ending → Machine → σ × List Exchange → Prop where
  | stopped
      {failure : Failure}
      {last : Machine}
      {left : σ × List Exchange}
      (fails : first.Executes console.traced origin.rewound (channel, []) (.failed failure)
        last left) :
      Sequence first second source console origin channel
        (.failed (failure.relocated source 0)) last left
  | resumed
      {ending : Ending}
      {middle last : Machine}
      {middleChannel lastChannel : σ}
      {said answered : List Exchange}
      (finishes : first.Executes console.traced origin.rewound (channel, []) .finished
        middle (middleChannel, said))
      (resumes : second.Executes console.traced middle.rewound (middleChannel, []) ending
        last (lastChannel, answered)) :
      Sequence first second source console origin channel
        (ending.relocated source first.program.size)
        (last.relocated first.program.size middle.steps) (lastChannel, said ++ answered)

/-- Whether a program does what two programs do one after the other. -/
structure IsSequence
    (first second whole : Engine)
    (source : String)
    (console : Console σ) :
    Prop where
  /-- The whole ends exactly as its parts do one after the other. -/
  executes_iff : ∀ (origin : Machine) channel ending last left,
    whole.Executes console.traced origin.rewound (channel, []) ending last left ↔
      Sequence first second source console origin channel ending last left
  /-- The whole goes on for ever exactly when one of its parts does. -/
  diverges_iff : ∀ (origin : Machine) channel,
    whole.Diverges console.traced origin.rewound (channel, []) ↔
      first.Diverges console.traced origin.rewound (channel, []) ∨
        ∃ middle middleChannel said,
          first.Executes console.traced origin.rewound (channel, []) .finished middle
              (middleChannel, said) ∧
            second.Diverges console.traced middle.rewound (middleChannel, [])
  /-- The whole comes through all that its first part comes through. -/
  passesFirst : ∀ (origin : Machine) channel machine left,
    first.Passes console.traced origin.rewound (channel, []) machine left →
      whole.Passes console.traced origin.rewound (channel, []) machine left
  /-- Behind its first part, the whole comes through all that its second part comes through. -/
  passesSecond : ∀ (origin middle : Machine) channel middleChannel said machine other answered,
    first.Executes console.traced origin.rewound (channel, []) .finished middle
        (middleChannel, said) →
      second.Passes console.traced middle.rewound (middleChannel, []) machine
          (other, answered) →
        whole.Passes console.traced origin.rewound (channel, [])
          (machine.relocated first.program.size middle.steps) (other, said ++ answered)

/-- Two parts end one after the other, or one of them goes on for ever. -/
theorem exists_sequence_or_diverges
    (first second : Engine)
    (source : String)
    (console : Console σ)
    (origin : Machine)
    (channel : σ) :
    (∃ ending last left, Sequence first second source console origin channel ending last left) ∨
      first.Diverges console.traced origin.rewound (channel, []) ∨
        ∃ middle middleChannel said,
          first.Executes console.traced origin.rewound (channel, []) .finished middle
              (middleChannel, said) ∧
            second.Diverges console.traced middle.rewound (middleChannel, []) := by
  rcases exists_executes_or_diverges first console.traced origin.rewound (channel, []) with
    ⟨ending, middle, ⟨middleChannel, said⟩, executes⟩ | diverges
  · cases ending with
    | failed failure =>
        exact .inl ⟨_, _, _, .stopped executes⟩
    | unfinished =>
        exact absurd rfl executes.1
    | finished =>
        rcases exists_executes_or_diverges second console.traced middle.rewound
            (middleChannel, []) with
          ⟨ending, last, ⟨lastChannel, answered⟩, resumes⟩ | diverges
        · exact .inl ⟨_, _, _, .resumed executes resumes⟩
        · exact .inr (.inr ⟨middle, middleChannel, said, executes, diverges⟩)
  · exact .inr (.inl diverges)

@[simp]
theorem size_holding
    (engine : Engine)
    (code : List Opcode)
    (table : JumpTable) :
    (engine.holding code table).program.size = code.length :=
  Program.size_ofOpcodes code

section

variable
  {engine : Engine}
  {code : List Opcode}
  {table : JumpTable}
  {console : Console σ}
  {origin machine last : Machine}
  {channel lastChannel : σ}
  {ending : Ending}
  (positive : 0 < engine.batchSteps)
  (matching : table.Matches (.ofOpcodes code))

include positive matching

theorem executes_holding_iff :
    (engine.holding code table).Executes console origin.rewound channel ending last
        lastChannel ↔
      ∃ count, Machine.Ends console (.ofOpcodes code) table count origin.rewound channel
        ending last lastChannel := by
  have holdingPositive : 0 < (engine.holding code table).batchSteps := positive
  exact executes_iff_ends holdingPositive matching.serves (Int.le_refl 0)

theorem passes_holding_iff :
    (engine.holding code table).Passes console origin.rewound channel machine lastChannel ↔
      ∃ count, Machine.Path console (.ofOpcodes code) table count origin.rewound channel
        machine lastChannel := by
  have holdingPositive : 0 < (engine.holding code table).batchSteps := positive
  exact passes_iff_path holdingPositive matching.serves (Int.le_refl 0)

theorem diverges_holding_iff :
    (engine.holding code table).Diverges console origin.rewound channel ↔
      ∀ count, ∃ machine lastChannel,
        Machine.Path console (.ofOpcodes code) table count origin.rewound channel machine
          lastChannel := by
  have holdingPositive : 0 < (engine.holding code table).batchSteps := positive
  exact diverges_iff_path holdingPositive matching.serves (Int.le_refl 0)

theorem executes_holding_unique
    {otherEnding : Ending}
    {other : Machine}
    {otherChannel : σ}
    (executes : (engine.holding code table).Executes console origin.rewound channel ending
      last lastChannel)
    (same : (engine.holding code table).Executes console origin.rewound channel otherEnding
      other otherChannel) :
    ending = otherEnding ∧ last = other ∧ lastChannel = otherChannel := by
  have holdingPositive : 0 < (engine.holding code table).batchSteps := positive
  exact executes.unique holdingPositive matching.serves (Int.le_refl 0) same

end

section

variable
  {engine : Engine}
  {front back : List Opcode}
  {frontTable backTable wholeTable : JumpTable}
  {source : String}
  {console : Console σ}
  {origin machine middle last : Machine}
  {channel middleChannel lastChannel : σ}
  {left : σ × List Exchange}
  {said answered : List Exchange}
  {ending : Ending}
  (shown : (Program.ofOpcodes (front ++ back)).toSource = .ok source)
  (positive : 0 < engine.batchSteps)
  (first : IsPart 0 front frontTable (front ++ back) wholeTable)
  (second : IsPart front.length back backTable (front ++ back) wholeTable)

/-- A path of the first program is one of both. -/
theorem path_append_left
    {count : Nat}
    (first : IsPart 0 front frontTable (front ++ back) wholeTable)
    (path : Machine.Path console.traced (.ofOpcodes front) frontTable count origin.rewound
      (channel, []) machine left) :
    Machine.Path console.traced (.ofOpcodes (front ++ back)) wholeTable count origin.rewound
      (channel, []) machine left := by
  have moved := first.path_relocated (Int.le_refl 0) path 0 []
  rw [Machine.relocated_zero, Machine.relocated_zero] at moved
  exact moved

/-- A path to the end of the first program leads to the beginning of the second one. -/
theorem path_to_second
    {count : Nat}
    (first : IsPart 0 front frontTable (front ++ back) wholeTable)
    (path : Machine.Path console.traced (.ofOpcodes front) frontTable count origin.rewound
      (channel, []) middle (middleChannel, said))
    (past : middle.isPast (.ofOpcodes front) = true) :
    Machine.Path console.traced (.ofOpcodes (front ++ back)) wholeTable count origin.rewound
      (channel, []) (middle.rewound.relocated front.length middle.steps)
      (middleChannel, said) := by
  have reached := path.pc_eq_size first.matching (Int.le_refl 0) (Int.natCast_nonneg _) past
  rw [Program.size_ofOpcodes] at reached
  rw [Machine.relocated_rewound middle front.length reached]
  exact path_append_left first path

include shown positive first second

/-- What its parts do one after the other, the whole does. -/
theorem Sequence.executes
    (sequence : Sequence (engine.holding front frontTable) (engine.holding back backTable)
      source console origin channel ending last left) :
    (engine.holding (front ++ back) wholeTable).Executes console.traced origin.rewound
      (channel, []) ending last left := by
  apply (executes_holding_iff positive first.wholeMatching).mpr
  cases sequence with
  | stopped fails =>
      obtain ⟨count, ends⟩ := (executes_holding_iff positive first.matching).mp fails
      have moved := first.ends_failed_relocated shown (Int.le_refl 0) ends 0 []
      rw [Machine.relocated_zero, Machine.relocated_zero] at moved
      exact ⟨count, moved⟩
  | @resumed ending middle last middleChannel lastChannel said answered finishes resumes =>
      obtain ⟨count, ends⟩ := (executes_holding_iff positive first.matching).mp finishes
      obtain ⟨more, moreEnds⟩ := (executes_holding_iff positive second.matching).mp resumes
      cases ends with
      | finished path past =>
          have moved := second.ends_relocated shown List.length_append.symm (Int.le_refl 0)
            moreEnds middle.steps said
          rw [traceBehind_nil] at moved
          rw [size_holding]
          exact ⟨count + more, (path_to_second first path past).ends moved⟩

omit shown in
theorem passes_second
    (finishes : (engine.holding front frontTable).Executes console.traced origin.rewound
      (channel, []) .finished middle (middleChannel, said))
    (passes : (engine.holding back backTable).Passes console.traced middle.rewound
      (middleChannel, []) machine (lastChannel, answered)) :
    (engine.holding (front ++ back) wholeTable).Passes console.traced origin.rewound
      (channel, []) (machine.relocated front.length middle.steps)
      (lastChannel, said ++ answered) := by
  obtain ⟨count, ends⟩ := (executes_holding_iff positive first.matching).mp finishes
  obtain ⟨more, later⟩ := (passes_holding_iff positive second.matching).mp passes
  cases ends with
  | finished path past =>
      have moved := second.path_relocated (Int.le_refl 0) later middle.steps said
      rw [traceBehind_nil] at moved
      exact (passes_holding_iff positive first.wholeMatching).mpr
        ⟨count + more, (path_to_second first path past).append moved⟩

omit shown in
/-- If one of the parts goes on for ever, the whole does. -/
theorem diverges_append
    (diverges :
      (engine.holding front frontTable).Diverges console.traced origin.rewound (channel, []) ∨
        ∃ middle middleChannel said,
          (engine.holding front frontTable).Executes console.traced origin.rewound
              (channel, []) .finished middle (middleChannel, said) ∧
            (engine.holding back backTable).Diverges console.traced middle.rewound
              (middleChannel, [])) :
    (engine.holding (front ++ back) wholeTable).Diverges console.traced origin.rewound
      (channel, []) := by
  apply (diverges_holding_iff positive first.wholeMatching).mpr
  intro count
  rcases diverges with firstDiverges | ⟨middle, middleChannel, said, finishes, secondDiverges⟩
  · obtain ⟨last, left, path⟩ :=
      (diverges_holding_iff positive first.matching).mp firstDiverges count
    exact ⟨last, left, path_append_left first path⟩
  · obtain ⟨length, ends⟩ := (executes_holding_iff positive first.matching).mp finishes
    obtain ⟨last, left, later⟩ :=
      (diverges_holding_iff positive second.matching).mp secondDiverges count
    cases ends with
    | finished path past =>
        have moved := second.path_relocated (Int.le_refl 0) later middle.steps said
        rw [traceBehind_nil] at moved
        obtain ⟨_, _, shorter⟩ :=
          ((path_to_second first path past).append moved).exists_take
            (Nat.le_add_left count length)
        exact ⟨_, _, shorter⟩

theorem isSequence_append :
    IsSequence (engine.holding front frontTable) (engine.holding back backTable)
      (engine.holding (front ++ back) wholeTable) source console := by
  constructor
  case executes_iff =>
    intro origin channel ending last left
    constructor
    · intro executes
      -- Whatever the parts come to, the whole comes to it as well, and to one end only.
      rcases exists_sequence_or_diverges (engine.holding front frontTable)
          (engine.holding back backTable) source console origin channel with
        ⟨other, otherLast, otherLeft, sequence⟩ | diverges
      · have same := sequence.executes shown positive first second
        obtain ⟨rfl, rfl, rfl⟩ :=
          executes_holding_unique positive first.wholeMatching executes same
        exact sequence
      · exact absurd executes (diverges_append positive first second diverges ending last left)
    · intro sequence
      exact sequence.executes shown positive first second
  case diverges_iff =>
    intro origin channel
    constructor
    · intro diverges
      rcases exists_sequence_or_diverges (engine.holding front frontTable)
          (engine.holding back backTable) source console origin channel with
        ⟨ending, last, left, sequence⟩ | parts
      · exact absurd (sequence.executes shown positive first second) (diverges ending last left)
      · exact parts
    · exact diverges_append positive first second
  case passesFirst =>
    intro origin channel machine left passes
    obtain ⟨count, path⟩ := (passes_holding_iff positive first.matching).mp passes
    exact (passes_holding_iff positive first.wholeMatching).mpr
      ⟨count, path_append_left first path⟩
  case passesSecond =>
    intro origin middle channel middleChannel said machine other answered finishes passes
    rw [size_holding]
    exact passes_second positive first second finishes passes

end

end Brainfuck.Engine
