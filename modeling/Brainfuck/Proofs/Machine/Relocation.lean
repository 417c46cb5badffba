import Brainfuck.Proofs.Loop.Segment
import Brainfuck.Proofs.Machine.Ends
import Brainfuck.Proofs.Machine.Fits
import Brainfuck.Proofs.Machine.Likeness
import Brainfuck.Proofs.Program.Loaded

namespace Brainfuck

/-!
# Relocation

A segment of a program does inside that program what it does as a program of its
own: the same steps at addresses that are moved by its offset, with the same
exchanges, up to its end or its failure.  What the machine did before has no
influence on this.
-/

/-- A failure as a longer program reports it, in which the failing part has an offset. -/
def Failure.relocated
    (source : String)
    (offset : Nat) :
    Failure → Failure
  | .tapeBounds fault => .tapeBounds { fault with address := fault.address + offset, source }
  | failure => failure

/-- An ending as that of a longer program, in which the ending part has an offset. -/
def Ending.relocated
    (source : String)
    (offset : Nat) :
    Ending → Ending
  | .failed failure => .failed (failure.relocated source offset)
  | ending => ending

/-- The machine at an address further on, after some steps more. -/
def Machine.relocated
    (offset steps : Nat)
    (machine : Machine) :
    Machine :=
  { machine with pc := machine.pc + offset, steps := machine.steps + steps }

/-- The machine at the first address, with its steps counted from there. -/
def Machine.rewound (machine : Machine) : Machine :=
  { machine with pc := 0, steps := 0 }

/-- A step of a part of a program as a step of that program. -/
def Transition.relocated
    {σ : Type}
    (source : String)
    (offset steps : Nat)
    (transition : Transition σ) :
    Transition σ :=
  ⟨transition.failure.map (Failure.relocated source offset),
    transition.machine.relocated offset steps, transition.channel⟩

/-- Whether a program is a segment of another one, and both have tables that match them. -/
structure IsPart
    (offset : Nat)
    (code : List Opcode)
    (table : JumpTable)
    (opcodes : List Opcode)
    (wholeTable : JumpTable) :
    Prop where
  segment : IsSegment offset code opcodes
  matching : table.Matches (.ofOpcodes code)
  wholeMatching : wholeTable.Matches (.ofOpcodes opcodes)

namespace Machine

variable
  {σ : Type}
  {console : Console σ}
  {offset : Nat}
  {code opcodes : List Opcode}
  {table wholeTable : JumpTable}
  {source : String}
  {machine : Machine}

theorem behind_relocated
    (machine : Machine)
    (address : Int)
    (offset steps : Nat) :
    (machine.relocated offset steps).behind (address + offset) =
      (machine.behind address).relocated offset steps := by
  simp only [relocated, behind, mk.injEq, true_and]
  omega

theorem advance_relocated
    (machine : Machine)
    (offset steps : Nat) :
    (machine.relocated offset steps).advance = machine.advance.relocated offset steps :=
  machine.behind_relocated machine.pc offset steps

theorem relocated_zero (machine : Machine) :
    machine.relocated 0 0 = machine := by
  simp [relocated]

theorem relocated_rewound
    (machine : Machine)
    (offset : Nat)
    (stands : machine.pc = offset) :
    machine.rewound.relocated offset machine.steps = machine := by
  simp [relocated, rewound, ← stands]

theorem boundsFailure_relocated
    (code : List Opcode)
    (shown : (Program.ofOpcodes opcodes).toSource = .ok source)
    (address attempted : Int)
    (tapeSize : Nat) :
    boundsFailure (.ofOpcodes opcodes) (address + offset) attempted tapeSize =
      (boundsFailure (.ofOpcodes code) address attempted tapeSize).relocated source offset := by
  simp only [boundsFailure, shown, Program.toSource_ofOpcodes, Failure.relocated]

/-- A command that is no bracket does the same at an address further on. -/
theorem execute_relocated
    {opcode : Opcode}
    (notBracket : ¬ (opcode = .loopOpen ∨ opcode = .loopClose))
    (shown : (Program.ofOpcodes opcodes).toSource = .ok source)
    (console : Console σ)
    (channel : σ)
    (steps : Nat) :
    execute console (.ofOpcodes opcodes) wholeTable opcode (machine.relocated offset steps)
        channel =
      (execute console (.ofOpcodes code) table opcode machine channel).relocated source offset
        steps := by
  have proceeds (next : Machine) (nextChannel : σ) :
      proceed (next.relocated offset steps).advance nextChannel =
        (proceed next.advance nextChannel).relocated source offset steps :=
    congrArg (proceed · nextChannel) (next.advance_relocated offset steps)
  have refuses (attempted : Int) :
      refuse (machine.relocated offset steps) channel
          (boundsFailure (.ofOpcodes opcodes) (machine.pc + offset) attempted
            machine.tape.size) =
        (refuse machine channel
          (boundsFailure (.ofOpcodes code) machine.pc attempted machine.tape.size)).relocated
          source offset steps := by
    rw [boundsFailure_relocated code shown]
    rfl
  cases opcode with
  | loopOpen =>
      exact absurd (.inl rfl) notBracket
  | loopClose =>
      exact absurd (.inr rfl) notBracket
  | increment =>
      exact proceeds (machine.store (machine.cell + 1)) channel
  | decrement =>
      exact proceeds (machine.store (machine.cell - 1)) channel
  | moveRight =>
      by_cases room : machine.pointer + 1 < machine.tape.size
      · have wideRoom :
            (machine.relocated offset steps).pointer + 1 <
              (machine.relocated offset steps).tape.size :=
          room
        simp only [execute, room, wideRoom, ↓reduceIte]
        exact proceeds (machine.point (machine.pointer + 1)) channel
      · have noRoom :
            ¬ (machine.relocated offset steps).pointer + 1 <
              (machine.relocated offset steps).tape.size :=
          room
        simp only [execute, room, noRoom, ↓reduceIte]
        exact refuses (machine.pointer + 1)
  | moveLeft =>
      by_cases edge : machine.pointer = 0
      · have atEdge : (machine.relocated offset steps).pointer = 0 := edge
        simp only [execute, edge, atEdge, ↓reduceIte]
        exact refuses (-1)
      · have inside : ¬ (machine.relocated offset steps).pointer = 0 := edge
        simp only [execute, edge, inside, ↓reduceIte]
        exact proceeds (machine.point (machine.pointer - 1)) channel
  | output =>
      have sameCell : (machine.relocated offset steps).cell = machine.cell := rfl
      simp only [execute, sameCell]
      cases console.write machine.cell channel with
      | mk result next =>
          cases result with
          | ok _ =>
              exact proceeds machine next
          | error cause =>
              rfl
  | input =>
      simp only [execute]
      cases console.read channel with
      | mk reading next =>
          cases reading with
          | number value =>
              exact proceeds (machine.store (UInt8.ofInt value)) next
          | endOfInput =>
              exact proceeds machine next
          | failure cause =>
              rfl

end Machine

namespace IsPart

variable
  {σ : Type}
  {console : Console σ}
  {offset : Nat}
  {code opcodes : List Opcode}
  {table wholeTable : JumpTable}
  {source : String}
  {machine last : Machine}
  {channel lastChannel : σ × List Exchange}
  (part : IsPart offset code table opcodes wholeTable)

include part

theorem opcodeAt?_relocated
    (standing : 0 ≤ machine.pc)
    (going : machine.isPast (.ofOpcodes code) = false)
    (steps : Nat) :
    (Program.ofOpcodes opcodes).opcodeAt? (machine.relocated offset steps).pc =
      (Program.ofOpcodes code).opcodeAt? machine.pc := by
  obtain ⟨address, same, inside⟩ := Machine.exists_offset standing going
  rw [Program.size_ofOpcodes] at inside
  have moved : (machine.relocated offset steps).pc = (offset + address : Nat) := by
    simp only [Machine.relocated, same]
    omega
  rw [moved, same]
  exact part.segment.opcodeAt?_add inside

theorem isPast_relocated
    (standing : 0 ≤ machine.pc)
    (going : machine.isPast (.ofOpcodes code) = false)
    (steps : Nat) :
    (machine.relocated offset steps).isPast (.ofOpcodes opcodes) = false := by
  obtain ⟨address, same, inside⟩ := Machine.exists_offset standing going
  rw [Program.size_ofOpcodes] at inside
  have bound := part.segment.add_length_le
  simp only [Machine.isPast, Machine.relocated, Program.size_ofOpcodes, decide_eq_false_iff_not]
  omega

/-- A step of a part is a step of the whole. -/
theorem step_relocated
    (shown : (Program.ofOpcodes opcodes).toSource = .ok source)
    (standing : 0 ≤ machine.pc)
    (going : machine.isPast (.ofOpcodes code) = false)
    (console : Console σ)
    (channel : σ)
    (steps : Nat) :
    (machine.relocated offset steps).step console (.ofOpcodes opcodes) wholeTable channel =
      (machine.step console (.ofOpcodes code) table channel).relocated source offset steps := by
  obtain ⟨address, same, inside⟩ := Machine.exists_offset standing going
  have wholeStanding : 0 ≤ (machine.relocated offset steps).pc := by
    simp only [Machine.relocated]
    omega
  by_cases bracket : (Program.ofOpcodes code).HasBracket address
  · have jumped {first last : Nat}
        (loop : (Program.ofOpcodes code).IsLoop first last)
        (stands : machine.pc = first ∨ machine.pc = last) :
        (machine.relocated offset steps).step console (.ofOpcodes opcodes) wholeTable channel =
          (machine.step console (.ofOpcodes code) table channel).relocated source offset
            steps := by
      have wholeStands :
          (machine.relocated offset steps).pc = (offset + first : Nat) ∨
            (machine.relocated offset steps).pc = (offset + last : Nat) := by
        simp only [Machine.relocated]
        omega
      rw [Machine.step_of_isLoop part.matching loop stands console channel,
        Machine.step_of_isLoop part.wholeMatching (part.segment.isLoop loop) wholeStands console
          channel]
      change Machine.proceed ((machine.relocated offset steps).behind
          (if machine.cell = 0 then offset + last else offset + first : Nat)) channel =
        Machine.proceed ((machine.behind
          (if machine.cell = 0 then last else first : Nat)).relocated offset steps) channel
      rw [← Machine.behind_relocated]
      split <;> rw [Int.natCast_add, Int.add_comm]
    obtain ⟨other, loop | loop⟩ := part.matching.partner address bracket
    · exact jumped loop (.inl same)
    · exact jumped loop (.inr same)
  · rw [Machine.step_eq standing going,
      Machine.step_eq wholeStanding (part.isPast_relocated standing going steps),
      part.opcodeAt?_relocated standing going steps]
    cases found : (Program.ofOpcodes code).opcodeAt? machine.pc with
    | none =>
        exact congrArg (Machine.proceed · channel) (machine.advance_relocated offset steps)
    | some opcode =>
        have notBracket : ¬ (opcode = .loopOpen ∨ opcode = .loopClose) := by
          rintro (rfl | rfl)
          · exact bracket (.inl (same ▸ found))
          · exact bracket (.inr (same ▸ found))
        exact Machine.execute_relocated notBracket shown console channel steps

/-- On a traced console, what was said before the part began stays in front. -/
theorem step_traced
    {failure : Option Failure}
    (shown : (Program.ofOpcodes opcodes).toSource = .ok source)
    (standing : 0 ≤ machine.pc)
    (going : machine.isPast (.ofOpcodes code) = false)
    (stepped :
      machine.step console.traced (.ofOpcodes code) table channel =
        ⟨failure, last, lastChannel⟩)
    (steps : Nat)
    (said : List Exchange) :
    (machine.relocated offset steps).step console.traced (.ofOpcodes opcodes) wholeTable
        (traceBehind said channel) =
      ⟨failure.map (Failure.relocated source offset), last.relocated offset steps,
        traceBehind said lastChannel⟩ := by
  rw [Machine.step_traceBehind, part.step_relocated shown standing going, stepped]
  rfl

/-- A path in a part is a path in the whole. -/
theorem path_relocated
    {count : Nat}
    (standing : 0 ≤ machine.pc)
    (path : Machine.Path console.traced (.ofOpcodes code) table count machine channel last
      lastChannel)
    (steps : Nat)
    (said : List Exchange) :
    Machine.Path console.traced (.ofOpcodes opcodes) wholeTable count
      (machine.relocated offset steps) (traceBehind said channel)
      (last.relocated offset steps) (traceBehind said lastChannel) := by
  induction path with
  | refl machine channel =>
      exact .refl _ _
  | step going first _ inductionHypothesis =>
      have next := Machine.standing_of_step part.matching.serves standing going first
      exact .step (part.isPast_relocated standing going steps)
        (part.step_traced (Program.toSource_ofOpcodes opcodes) standing going first steps said)
        (inductionHypothesis next)

/-- Where a part fails, the whole does. -/
theorem ends_failed_relocated
    {count : Nat}
    {failure : Failure}
    (shown : (Program.ofOpcodes opcodes).toSource = .ok source)
    (standing : 0 ≤ machine.pc)
    (ends : Machine.Ends console.traced (.ofOpcodes code) table count machine channel
      (.failed failure) last lastChannel)
    (steps : Nat)
    (said : List Exchange) :
    Machine.Ends console.traced (.ofOpcodes opcodes) wholeTable count
      (machine.relocated offset steps) (traceBehind said channel)
      (.failed (failure.relocated source offset)) (last.relocated offset steps)
      (traceBehind said lastChannel) := by
  cases ends with
  | failed path going fails =>
      have stopped := path.standing part.matching.serves standing
      exact .failed (part.path_relocated standing path steps said)
        (part.isPast_relocated stopped going steps)
        (part.step_traced shown stopped going fails steps said)

/-- At the end of the whole, a part ends as the whole does. -/
theorem ends_relocated
    {count : Nat}
    {ending : Ending}
    (shown : (Program.ofOpcodes opcodes).toSource = .ok source)
    (atEnd : offset + code.length = opcodes.length)
    (standing : 0 ≤ machine.pc)
    (ends : Machine.Ends console.traced (.ofOpcodes code) table count machine channel ending
      last lastChannel)
    (steps : Nat)
    (said : List Exchange) :
    Machine.Ends console.traced (.ofOpcodes opcodes) wholeTable count
      (machine.relocated offset steps) (traceBehind said channel)
      (ending.relocated source offset) (last.relocated offset steps)
      (traceBehind said lastChannel) := by
  cases ending with
  | finished =>
      cases ends with
      | finished path past =>
          refine .finished (part.path_relocated standing path steps said) ?_
          simp only [Machine.isPast, Machine.relocated, Program.size_ofOpcodes,
            decide_eq_true_eq] at past ⊢
          omega
  | failed failure =>
      exact part.ends_failed_relocated shown standing ends steps said
  | unfinished =>
      exact absurd rfl ends.ne_unfinished

end IsPart

end Brainfuck
