import Brainfuck.Proofs.Console.Device

namespace Brainfuck

/-!
# Bytes in memory and in streams

A list of bytes answers requests for input alike, whether it is in memory or
read from a stream one byte at a time.  Memory and a stream that never refuses
take every byte, behind what they have taken before.
-/

/-- The answer of a list of bytes to a request for input, and the bytes behind it. -/
def nextByte : List UInt8 → Reading × List UInt8
  | [] => (.endOfInput, [])
  | byte :: rest => (.number byte.toNat, rest)

namespace Channel

/-- A channel whose input is a list of bytes in memory. -/
def fromMemory
    (bytes : List UInt8)
    (output : Output) :
    Channel where
  input := .memory bytes
  output := output

/-- A channel whose input is a stream of bytes. -/
def fromStream
    (bytes : List UInt8)
    (output : Output) :
    Channel where
  input := .ofStream (.bytes bytes)
  output := output

theorem connects_fromMemory : console.Connects nextByte fromMemory where
  reads source output := by
    cases source <;> rfl
  writes _ _ _ := rfl
  injective _ _ _ _ same := by
    cases same
    exact ⟨rfl, rfl⟩

theorem connects_fromStream : console.Connects nextByte fromStream where
  reads source output := by
    cases source <;> rfl
  writes _ _ _ := rfl
  injective _ _ _ _ same := by
    cases same
    exact ⟨rfl, rfl⟩

end Channel

namespace Output

/-- Whether a device takes every byte, behind those that it has taken before. -/
structure TakesAll
    (device : Array UInt8 → Output)
    (before : Array UInt8) :
    Prop where
  accepts : ∀ bytes byte, (device bytes).write byte = (.ok (), device (bytes.push byte))
  holds : ∀ bytes, (device bytes).bytes = before ++ bytes

theorem takesAll_memory : TakesAll .memory #[] where
  accepts _ _ := rfl
  holds _ := (Array.empty_append).symm

/-- A stream behind some more bytes, each of them flushed if the stream flushes. -/
def streaming
    (flushing : Bool)
    (recorder : Recorder)
    (bytes : Array UInt8) :
    Output :=
  .stream flushing
    { recorder with
      bytes := recorder.bytes ++ bytes
      writes := recorder.writes + bytes.size
      flushes := recorder.flushes + if flushing then bytes.size else 0 }

@[simp]
theorem streaming_empty
    (flushing : Bool)
    (recorder : Recorder) :
    streaming flushing recorder #[] = .stream flushing recorder := by
  simp [streaming]

/-- A stream without limits takes every byte. -/
theorem takesAll_streaming
    {recorder : Recorder}
    (writes : recorder.writeLimit = none)
    (flushes : recorder.flushLimit = none)
    (flushing : Bool) :
    TakesAll (streaming flushing recorder) recorder.bytes where
  accepts bytes byte := by
    have unlimited (successes : Nat) : Recorder.isReached none successes = false := rfl
    cases flushing <;>
      simp [streaming, write, Recorder.writeThrough, Recorder.write, Recorder.flush, writes,
        flushes, unlimited, Nat.add_assoc]
  holds _ := rfl

end Output

end Brainfuck
