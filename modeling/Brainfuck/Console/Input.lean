import Brainfuck.Console
import Brainfuck.Stream

namespace Brainfuck

/-!
# Input

Input comes from bytes in memory, from a stream that is read one item at a
time, or from prepared answers.  One item of a text stream may be encoded by
several bytes, which are then served one by one before the stream is read
again.
-/

/-- A source of input. -/
inductive Input where
  | memory (remaining : List UInt8)
  | stream (pending : List UInt8) (source : Stream)
  | answers (remaining : List Reading)
  deriving Repr, DecidableEq

namespace Input

/-- The input that is at its end from the start. -/
def empty : Input :=
  .memory []

/-- Input from the bytes of a text. -/
def ofText (text : String) : Input :=
  .memory (utf8Bytes text.toList)

/-- Input from a stream. -/
def ofStream (source : Stream) : Input :=
  .stream [] source

/-- The answer to a request for input, and the input behind it. -/
def read : Input → Reading × Input
  | .memory [] => (.endOfInput, .memory [])
  | .memory (byte :: rest) => (.number byte.toNat, .memory rest)
  | .stream (byte :: rest) source => (.number byte.toNat, .stream rest source)
  | .stream [] source =>
      match source.read 1 with
      | (.error cause, next) => (.failure cause, .stream [] next)
      | (.ok [], next) => (.endOfInput, .stream [] next)
      | (.ok (byte :: rest), next) => (.number byte.toNat, .stream rest next)
  | .answers [] => (.endOfInput, .answers [])
  | .answers (reading :: rest) => (reading, .answers rest)

/-- The answers to a number of requests, in order, and the input behind them. -/
def readMany : Nat → Input → List Reading × Input
  | 0, input => ([], input)
  | count + 1, input =>
      let (reading, next) := input.read
      let (readings, last) := readMany count next
      (reading :: readings, last)

end Input

end Brainfuck
