import Brainfuck.Console.Input
import Brainfuck.Failure

namespace Brainfuck

/-!
# Output

Output goes to memory, to a sink, or to a stream that is flushed after each
byte.  Sinks and streams record what they accept and may refuse writes or
flushes after a number of successful ones.  A byte whose flush is refused has
been written all the same.
-/

/-- What a device has accepted, and when it refuses. -/
structure Recorder where
  bytes : Array UInt8
  writes : Nat
  flushes : Nat
  writeLimit : Option Nat
  flushLimit : Option Nat
  refusal : SystemError
  deriving Repr, DecidableEq

namespace Recorder

/-- A device that has accepted nothing yet and never refuses. -/
def fresh : Recorder where
  bytes := #[]
  writes := 0
  flushes := 0
  writeLimit := none
  flushLimit := none
  refusal := .blank

/-- Whether a limit on a number of successes is reached. -/
def isReached
    (limit : Option Nat)
    (successes : Nat) :
    Bool :=
  limit.any fun most => most ≤ successes

/-- Writes some bytes at once. -/
def write
    (recorder : Recorder)
    (bytes : List UInt8) :
    Except SystemError Unit × Recorder :=
  if isReached recorder.writeLimit recorder.writes then
    (.error recorder.refusal, recorder)
  else
    (.ok (), { recorder with bytes := recorder.bytes ++ bytes, writes := recorder.writes + 1 })

/-- Flushes what was written. -/
def flush (recorder : Recorder) : Except SystemError Unit × Recorder :=
  if isReached recorder.flushLimit recorder.flushes then
    (.error recorder.refusal, recorder)
  else
    (.ok (), { recorder with flushes := recorder.flushes + 1 })

/-- Writes some bytes and flushes them. -/
def writeThrough
    (recorder : Recorder)
    (bytes : List UInt8) :
    Except SystemError Unit × Recorder :=
  match recorder.write bytes with
  | (.error cause, next) => (.error cause, next)
  | (.ok _, next) => next.flush

end Recorder

/-- A destination of output. -/
inductive Output where
  | memory (bytes : Array UInt8)
  | sink (recorder : Recorder)
  | stream (flushing : Bool) (recorder : Recorder)
  deriving Repr, DecidableEq

namespace Output

/-- Output to memory, nothing written yet. -/
def empty : Output :=
  .memory #[]

/-- Writes one byte. -/
def write
    (byte : UInt8) :
    Output → Except SystemError Unit × Output
  | .memory bytes => (.ok (), .memory (bytes.push byte))
  | .sink recorder =>
      let (result, next) := recorder.write [byte]
      (result, .sink next)
  | .stream true recorder =>
      let (result, next) := recorder.writeThrough [byte]
      (result, .stream true next)
  | .stream false recorder =>
      let (result, next) := recorder.write [byte]
      (result, .stream false next)

/-- Writes a number; one that is no byte is a failure and writes nothing. -/
def writeNumber
    (number : Int)
    (output : Output) :
    Outcome (Except SystemError Unit) × Output :=
  if 0 ≤ number ∧ number < 256 then
    let (result, next) := output.write (UInt8.ofInt number)
    (.ok result, next)
  else
    match output with
    | .memory _ => (.error (.notByte .buffer), output)
    | _ => (.error (.notByte .stream), output)

/-- Prints a text; a refusal is passed over. -/
def print
    (text : String) :
    Output → Output
  | .memory bytes => .memory (bytes ++ utf8Bytes text.toList)
  | .sink recorder => .sink (recorder.write (utf8Bytes text.toList)).2
  | .stream flushing recorder => .stream flushing (recorder.write (utf8Bytes text.toList)).2

/-- The bytes that were written. -/
def bytes : Output → Array UInt8
  | .memory bytes => bytes
  | .sink recorder => recorder.bytes
  | .stream _ recorder => recorder.bytes

/-- The bytes that a caller gets back: those in memory. -/
def captured : Output → Array UInt8
  | .memory bytes => bytes
  | _ => #[]

/-- The record of a device. -/
def recorder? : Output → Option Recorder
  | .memory _ => none
  | .sink recorder => some recorder
  | .stream _ recorder => some recorder

end Output

/-- The input and the output of one run. -/
structure Channel where
  input : Input
  output : Output
  deriving Repr, DecidableEq

namespace Channel

/-- No input, and output to memory. -/
def empty : Channel where
  input := .empty
  output := .empty

/-- The console that reads the input and writes the output. -/
def console : Console Channel where
  read channel :=
    let (reading, next) := channel.input.read
    (reading, { channel with input := next })
  write byte channel :=
    let (result, next) := channel.output.write byte
    (result, { channel with output := next })

end Channel

end Brainfuck
