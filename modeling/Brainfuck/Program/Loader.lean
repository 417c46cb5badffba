import Brainfuck.Memory
import Brainfuck.Program.Buffer
import Brainfuck.Stream

namespace Brainfuck

/-!
# Loading programs

Source text is filtered byte by byte: the eight command bytes are kept in
order and all others are comments.  No byte of a longer UTF-8 sequence is a
command byte, so text may be filtered in encoded form.  A stream is read in
chunks up to the first empty one.
-/

/-- Source text that is at hand as a whole. -/
inductive Source where
  | text (content : String)
  | bytes (content : List UInt8)
  deriving Repr, DecidableEq

namespace Source

/-- The length of a source: characters of text, or bytes. -/
def length : Source → Nat
  | .text content => content.length
  | .bytes content => content.length

/-- The bytes of a source, text being encoded as UTF-8. -/
def toBytes : Source → List UInt8
  | .text content => utf8Bytes content.toList
  | .bytes content => content

end Source

namespace Program

/-- The program of a source that is at hand as a whole. -/
def load (source : Source) : Outcome Program := do
  let empty ← Buffer.create (max Buffer.defaultCapacity source.length) alwaysGranted
  let (buffer, _) ← empty.extend source.toBytes alwaysGranted
  return buffer.freeze

/-- The size of the chunks in which a stream is read when nothing else is asked for. -/
def defaultChunkSize : Int :=
  usualRead

/-- Reads a stream into a buffer up to the first empty chunk and counts the bytes. -/
def fill
    (stream : Stream)
    (chunkSize : Int)
    (buffer : Buffer)
    (total : Nat) :
    Outcome (Buffer × Nat) :=
  match _answer : (stream.read chunkSize).1 with
  | .error cause => .error (.streamFailed cause)
  | .ok [] => .ok (buffer, total)
  | .ok (first :: bytes) =>
      match buffer.extend (first :: bytes) alwaysGranted with
      | .error failure => .error failure
      | .ok (longer, _) =>
          fill (stream.read chunkSize).2 chunkSize longer (total + (bytes.length + 1))
termination_by stream.length
decreasing_by exact Stream.length_read_lt _answer

/-- Refuses to read a stream in a size that it cannot be asked for. -/
def checkChunkSize
    (stream : Stream)
    (chunkSize : Int) :
    Outcome Unit :=
  if stream.admits chunkSize then .ok () else .error .readSizeTooWide

/-- The program of a stream, and how many bytes it has. -/
def loadStream
    (stream : Stream)
    (chunkSize : Int) :
    Outcome (Program × Nat) := do
  let empty ← Buffer.create Buffer.defaultCapacity alwaysGranted
  checkChunkSize stream chunkSize
  let (buffer, total) ← fill stream chunkSize empty 0
  return (buffer.freeze, total)

end Program

end Brainfuck
