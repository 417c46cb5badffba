import Brainfuck.Proofs.Machine.Breakdown
import Brainfuck.Proofs.Machine.Likeness

namespace Brainfuck

/-!
# Scripts of input

A script is an endless sequence of answers, bytes and marks of the end of the
input, with failures in front of any of them.  A read gives the next failure or,
if none is left in front of the next answer, that answer.  A mended script gives
the same answers and never fails.
-/

/-- An endless sequence of answers, and the failures in front of each of them. -/
structure Script where
  answers : Nat → Option Int
  failures : Nat → List SystemError

/-- How far a script was read: the failures in front of the next answer, and the answers given. -/
structure Place where
  pending : List SystemError
  given : Nat
  deriving Repr, DecidableEq

namespace Script

/-- The script without its failures. -/
def mended (script : Script) : Script :=
  { script with failures := fun _ => [] }

/-- What the answer of a number is to a request for input. -/
def reading
    (script : Script)
    (number : Nat) :
    Reading :=
  match script.answers number with
  | some value => .number value
  | none => .endOfInput

/-- The place in front of the answer of a number. -/
def before
    (script : Script)
    (number : Nat) :
    Place where
  pending := script.failures number
  given := number

/-- The answer to a request for input, and the place behind it. -/
def read
    (script : Script)
    (place : Place) :
    Reading × Place :=
  match place.pending with
  | cause :: rest => (.failure cause, { place with pending := rest })
  | [] => (script.reading place.given, script.before (place.given + 1))

/-- The console that reads a script and whose output accepts every write. -/
def console
    {τ : Type}
    (script : Script)
    (write : UInt8 → τ → τ) :
    Console (Place × τ) where
  read channel :=
    let (reading, next) := script.read channel.1
    (reading, (next, channel.2))
  write byte channel := (.ok (), (channel.1, write byte channel.2))

end Script

/-- The place in front of the next answer, all failures before it passed. -/
def Place.settled (place : Place) : Place :=
  { place with pending := [] }

/-- The place in front of the next answer, and the output as it is. -/
def settle
    {τ : Type}
    (channel : Place × τ) :
    Place × τ :=
  (channel.1.settled, channel.2)

namespace Script

variable
  {τ : Type}
  {script : Script}
  {write : UInt8 → τ → τ}
  {program : Program}
  {table : JumpTable}
  {machine last : Machine}
  {channel lastChannel : Place × τ}
  {failure : Failure}

theorem reading_ne_failure
    (script : Script)
    (number : Nat)
    {cause : SystemError} :
    script.reading number ≠ .failure cause := by
  unfold reading
  split <;> exact Reading.noConfusion

theorem read_failing
    {cause : SystemError}
    {rest : List SystemError}
    (pending : channel.1.pending = cause :: rest) :
    (script.console write).read channel =
      (.failure cause, (⟨rest, channel.1.given⟩, channel.2)) := by
  simp only [console, read, pending]

/-- Where no failure comes first, a mended script answers alike. -/
theorem answersAlike_settle
    (script : Script)
    (write : UInt8 → τ → τ)
    (served : program.opcodeAt? machine.pc = some .input → channel.1.pending = []) :
    Machine.AnswersAlike (script.console write) (script.mended.console write) settle program
      machine channel where
  read found := by
    simp only [console, read, settle, Place.settled, served found]
    rfl
  write _ := rfl

/-- Where a step fails because of the console, a failure of the script came first. -/
theorem pending_of_step_eq
    (fails :
      machine.step (script.console write) program table channel =
        ⟨some failure, last, lastChannel⟩)
    (io : failure.isIo = true) :
    last = machine ∧ program.opcodeAt? machine.pc = some .input ∧
      ∃ cause rest, channel.1.pending = cause :: rest ∧
        lastChannel = (⟨rest, channel.1.given⟩, channel.2) := by
  obtain ⟨same, breakdown⟩ := Machine.breakdown_of_step_eq fails
  rcases breakdown.refused io with ⟨_, found, answered⟩ | ⟨_, _, written⟩
  · refine ⟨same, found, ?_⟩
    cases pending : channel.1.pending with
    | nil =>
        simp only [console, read, pending, Prod.mk.injEq] at answered
        exact absurd answered.1 (script.reading_ne_failure _)
    | cons cause rest =>
        rw [read_failing pending] at answered
        cases answered
        exact ⟨_, rest, rfl, rfl⟩
  · cases written

/-- A step that needs input fails while failures come first. -/
theorem step_of_pending
    {cause : SystemError}
    {rest : List SystemError}
    (script : Script)
    (write : UInt8 → τ → τ)
    (found : program.opcodeAt? machine.pc = some .input)
    (pending : channel.1.pending = cause :: rest)
    (table : JumpTable) :
    machine.step (script.console write) program table channel =
      ⟨some (.inputFailed cause), machine, (⟨rest, channel.1.given⟩, channel.2)⟩ := by
  obtain ⟨word, fetched, command⟩ := Option.bind_eq_some_iff.mp found
  simp only [Machine.step, fetched, command, Machine.execute, read_failing pending,
    Machine.refuse]

end Script

end Brainfuck
