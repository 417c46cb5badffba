import Brainfuck.Console.Output
import Brainfuck.Proofs.Machine.Likeness
import Mathlib.Logic.Function.Basic

namespace Brainfuck

/-!
# Devices that refuse

A device is what an output is after it has taken some bytes.  A sink may refuse
all writes from some number of them on, and a stream all flushes.  Up to there,
either of them answers as one does that keeps every byte and never refuses.
-/

theorem Recorder.isReached_eq_false
    {limit successes : Nat}
    (room : successes < limit) :
    isReached (some limit) successes = false := by
  simpa [isReached] using room

theorem Recorder.isReached_eq_true
    {limit successes : Nat}
    (full : limit ≤ successes) :
    isReached (some limit) successes = true := by
  simpa [isReached] using full

namespace Output

/-- A sink that has recorded some bytes and never refuses. -/
def recording (bytes : Array UInt8) : Output :=
  .sink { Recorder.fresh with bytes, writes := bytes.size }

/-- A sink that has recorded some bytes and takes a number of writes at most. -/
def refusingWrites
    (limit : Nat)
    (refusal : SystemError)
    (bytes : Array UInt8) :
    Output :=
  .sink { Recorder.fresh with bytes, writes := bytes.size, writeLimit := some limit, refusal }

/-- A stream that has written and flushed some bytes and takes a number of flushes at most. -/
def refusingFlushes
    (limit : Nat)
    (refusal : SystemError)
    (bytes : Array UInt8) :
    Output :=
  .stream true
    { Recorder.fresh with
      bytes
      writes := bytes.size
      flushes := bytes.size
      flushLimit := some limit
      refusal }

/--
Whether a device takes a number of bytes and then refuses the next one, and
which bytes it has recorded by then.
-/
structure Refuses
    (device : Array UInt8 → Output)
    (limit : Nat)
    (cause : SystemError)
    (recorded : Array UInt8 → UInt8 → Array UInt8) :
    Prop where
  accepts : ∀ bytes byte, bytes.size < limit →
    (device bytes).write byte = (.ok (), device (bytes.push byte))
  refuses : ∀ bytes byte, bytes.size = limit →
    ∃ output, (device bytes).write byte = (.error cause, output) ∧
      output.bytes = recorded bytes byte

theorem write_recording
    (bytes : Array UInt8)
    (byte : UInt8) :
    (recording bytes).write byte = (.ok (), recording (bytes.push byte)) := by
  simp [recording, write, Recorder.write, Recorder.fresh, Recorder.isReached]

theorem recording_injective : Function.Injective recording := by
  intro bytes other same
  cases same
  rfl

/-- A write that is refused leaves no byte behind. -/
theorem refuses_refusingWrites
    (limit : Nat)
    (cause : SystemError) :
    Refuses (refusingWrites limit cause) limit cause fun bytes _ => bytes := by
  constructor
  case accepts =>
    intro bytes byte room
    simp [refusingWrites, write, Recorder.write, Recorder.isReached_eq_false room]
  case refuses =>
    intro bytes byte full
    have reached := Recorder.isReached_eq_true (Nat.le_of_eq full.symm)
    refine ⟨refusingWrites limit cause bytes, ?_, rfl⟩
    simp [refusingWrites, write, Recorder.write, reached]

/-- A byte whose flush is refused has been written. -/
theorem refuses_refusingFlushes
    (limit : Nat)
    (cause : SystemError) :
    Refuses (refusingFlushes limit cause) limit cause Array.push := by
  constructor
  case accepts =>
    intro bytes byte room
    have unlimited : Recorder.isReached none bytes.size = false := rfl
    simp [refusingFlushes, write, Recorder.writeThrough, Recorder.write, Recorder.flush,
      Recorder.fresh, Recorder.isReached_eq_false room, unlimited]
  case refuses =>
    intro bytes byte full
    have reached := Recorder.isReached_eq_true (Nat.le_of_eq full.symm)
    have unlimited : Recorder.isReached none bytes.size = false := rfl
    simp [refusingFlushes, write, Recorder.writeThrough, Recorder.write, Recorder.flush,
      Recorder.fresh, reached, unlimited, Output.bytes]

end Output

/-- The console that reads from a source, keeps every byte and never refuses one. -/
def Console.keeping
    {ρ : Type}
    (read : ρ → Reading × ρ) :
    Console (ρ × Array UInt8) where
  read channel := ((read channel.1).1, (read channel.1).2, channel.2)
  write byte channel := (.ok (), channel.1, channel.2.push byte)

/--
Whether the state of a console consists of a source, from which it reads, and an
output, to which it writes, and neither of them depends on the other.
-/
structure Console.Connects
    {σ ρ : Type}
    (console : Console σ)
    (read : ρ → Reading × ρ)
    (join : ρ → Output → σ) :
    Prop where
  reads : ∀ source output,
    console.read (join source output) = ((read source).1, join (read source).2 output)
  writes : ∀ byte source output,
    console.write byte (join source output) =
      ((output.write byte).1, join source (output.write byte).2)
  injective : Function.Injective2 join

/-- The console of a channel connects its input with its output. -/
theorem Channel.connects : Channel.console.Connects Input.read Channel.mk where
  reads _ _ := rfl
  writes _ _ _ := rfl
  injective _ _ _ _ same := Channel.mk.inj same

/-- The state of a console whose device has taken the bytes that were kept. -/
def onDevice
    {σ ρ : Type}
    (join : ρ → Output → σ)
    (device : Array UInt8 → Output)
    (channel : ρ × Array UInt8) :
    σ :=
  join channel.1 (device channel.2)

namespace Machine

variable
  {σ ρ : Type}
  {console : Console σ}
  {read : ρ → Reading × ρ}
  {join : ρ → Output → σ}
  {device : Array UInt8 → Output}
  {program : Program}
  {table : JumpTable}
  {machine last next : Machine}
  {channel lastChannel nextChannel : ρ × Array UInt8}
  {count limit : Nat}

/-- A device that accepts a byte answers as if it kept every byte. -/
theorem answersAlike_onDevice
    (connects : console.Connects read join)
    (accepts : program.opcodeAt? machine.pc = some .output →
      (device channel.2).write machine.cell = (.ok (), device (channel.2.push machine.cell))) :
    AnswersAlike (.keeping read) console (onDevice join device) program machine channel where
  read _ := connects.reads channel.1 (device channel.2)
  write found := by
    rw [onDevice, connects.writes, accepts found]
    rfl

/-- A word that writes adds one byte to those that are kept; no other word does. -/
theorem size_step_keeping
    (stepped :
      machine.step (.keeping read) program table channel = ⟨none, next, nextChannel⟩) :
    nextChannel.2.size =
      if program.opcodeAt? machine.pc = some .output then channel.2.size + 1
      else channel.2.size := by
  have jumped
      (landed : jump table machine channel = ⟨none, next, nextChannel⟩) :
      nextChannel = channel := by
    unfold jump at landed
    split at landed <;> cases landed
    rfl
  unfold Program.opcodeAt?
  unfold step at stepped
  cases found : program.wordAt? machine.pc with
  | none =>
      rw [found] at stepped
      cases stepped
  | some word =>
      rw [found] at stepped
      rw [Option.bind_some]
      dsimp only at stepped
      cases command : Opcode.ofWord? word with
      | none =>
          rw [command] at stepped
          cases stepped
          rfl
      | some opcode =>
          rw [command] at stepped
          dsimp only [execute] at stepped
          cases opcode with
          | increment | decrement =>
              cases stepped
              rfl
          | moveRight | moveLeft =>
              dsimp only at stepped
              split at stepped <;> cases stepped
              rfl
          | output =>
              cases stepped
              exact Array.size_push _
          | input =>
              dsimp only [Console.keeping] at stepped
              cases answered : read channel.1 with
              | mk reading rest =>
                  rw [answered] at stepped
                  cases reading <;> cases stepped <;> rfl
          | loopOpen =>
              dsimp only at stepped
              split at stepped
              · rw [jumped stepped]
                rfl
              · cases stepped
                rfl
          | loopClose =>
              dsimp only at stepped
              split at stepped
              · cases stepped
                rfl
              · rw [jumped stepped]
                rfl

/-- Along a path, no byte that is kept is lost. -/
theorem Path.size_le_size
    (path : Path (.keeping read) program table count machine channel last lastChannel) :
    channel.2.size ≤ lastChannel.2.size := by
  induction path with
  | refl =>
      exact Nat.le_refl _
  | step _ first _ inductionHypothesis =>
      have added := size_step_keeping first
      split at added <;> omega

/-- The bytes in front of a word that writes are fewer than those at the end of a path past it. -/
theorem Path.size_lt_size
    {middle : Machine}
    {middleChannel : ρ × Array UInt8}
    {length : Nat}
    (path : Path (.keeping read) program table count machine channel last lastChannel)
    (shorter : length < count)
    (reached : Path (.keeping read) program table length machine channel middle middleChannel)
    (writes : program.opcodeAt? middle.pc = some .output) :
    middleChannel.2.size < lastChannel.2.size := by
  obtain ⟨more, rfl⟩ := Nat.exists_eq_add_of_lt shorter
  rw [Nat.add_assoc] at path
  cases reached.behind path with
  | step going first later =>
      have added := size_step_keeping first
      rw [if_pos writes] at added
      have kept := later.size_le_size
      omega

/-- The writes of a path are counted one after the other: none is left out. -/
theorem Path.exists_write
    (path : Path (.keeping read) program table count machine channel last lastChannel)
    (writes : program.opcodeAt? last.pc = some .output)
    (within : channel.2.size ≤ limit)
    (beyond : limit ≤ lastChannel.2.size) :
    ∃ length middle middleChannel,
      Path (.keeping read) program table length machine channel middle middleChannel ∧
        program.opcodeAt? middle.pc = some .output ∧
        middleChannel.2.size = limit := by
  induction path with
  | refl machine channel =>
      exact ⟨0, machine, channel, .refl _ _, writes, Nat.le_antisymm within beyond⟩
  | @step count machine next last channel nextChannel lastChannel going first later
      inductionHypothesis =>
      have added := size_step_keeping first
      -- A step adds one byte at most, so that the count cannot jump over the limit.
      by_cases here : program.opcodeAt? machine.pc = some .output ∧ channel.2.size = limit
      · exact ⟨0, machine, channel, .refl _ _, here⟩
      · have stillWithin : nextChannel.2.size ≤ limit := by
          split at added
          · next output =>
              have room : channel.2.size ≠ limit := fun full => here ⟨output, full⟩
              omega
          · omega
        obtain ⟨length, middle, middleChannel, reached, found⟩ :=
          inductionHypothesis writes stillWithin beyond
        exact ⟨length + 1, middle, middleChannel, .step going first reached, found⟩

end Machine

end Brainfuck
