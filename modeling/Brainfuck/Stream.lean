import Brainfuck.Memory
import Brainfuck.SystemError

namespace Brainfuck

/-!
# Streams

A stream answers reads of a given size.  Text streams count characters, byte
streams count bytes, and neither can be asked for a size that is too wide.  A
chunked stream answers each read with its next chunk, whatever the size, or
fails.  A negative size asks for all that is left.  What a read yields is always
bytes, text being encoded as UTF-8; no bytes mean the end of the stream.
-/

/-- The UTF-8 bytes of a list of characters. -/
def utf8Bytes (characters : List Char) : List UInt8 :=
  characters.flatMap String.utf8EncodeChar

/-- One prepared answer of a chunked stream. -/
inductive Chunk where
  | text (characters : List Char)
  | bytes (content : List UInt8)
  | failure (cause : SystemError)
  deriving Repr, DecidableEq

namespace Chunk

/-- The bytes that a chunk answers a read with, or its error. -/
def answer : Chunk → Except SystemError (List UInt8)
  | .text characters => .ok (utf8Bytes characters)
  | .bytes content => .ok content
  | .failure cause => .error cause

/-- The bytes of a sequence of chunks up to the first empty one. -/
def contents : List Chunk → Except SystemError (List UInt8)
  | [] => .ok []
  | chunk :: rest =>
      match chunk.answer with
      | .error cause => .error cause
      | .ok [] => .ok []
      | .ok (first :: more) => (contents rest).map (first :: more ++ ·)

end Chunk

/-- A source of text or bytes. -/
inductive Stream where
  | text (remaining : List Char)
  | bytes (remaining : List UInt8)
  | chunks (remaining : List Chunk)
  deriving Repr, DecidableEq

namespace Stream

/-- The stream that is at its end from the start. -/
def empty : Stream :=
  .bytes []

/-- Whether a stream can be asked for a read of some size; a chunked stream can for any. -/
def admits
    (stream : Stream)
    (size : Int) :
    Bool :=
  match stream with
  | .text _ => isIndex size
  | .bytes _ => isIndex size
  | .chunks _ => true

/--
How much of a stream with `available` items a read takes, of a size that the
stream can be asked for.
-/
def taken
    (size : Int)
    (available : Nat) :
    Nat :=
  if size < 0 then available else size.toNat

/-- The bytes that a read yields, or the error it meets, and the stream behind it. -/
def read
    (stream : Stream)
    (size : Int) :
    Except SystemError (List UInt8) × Stream :=
  match stream with
  | .text remaining =>
      (.ok (utf8Bytes (remaining.take (taken size remaining.length))),
        .text (remaining.drop (taken size remaining.length)))
  | .bytes remaining =>
      (.ok (remaining.take (taken size remaining.length)),
        .bytes (remaining.drop (taken size remaining.length)))
  | .chunks [] => (.ok [], .chunks [])
  | .chunks (.text characters :: rest) => (.ok (utf8Bytes characters), .chunks rest)
  | .chunks (.bytes content :: rest) => (.ok content, .chunks rest)
  | .chunks (.failure cause :: rest) => (.error cause, .chunks rest)

/-- All that a stream yields up to its end. -/
def content : Stream → Except SystemError (List UInt8)
  | .text remaining => .ok (utf8Bytes remaining)
  | .bytes remaining => .ok remaining
  | .chunks remaining => Chunk.contents remaining

/-- How many items a stream still has. -/
def length : Stream → Nat
  | .text remaining => remaining.length
  | .bytes remaining => remaining.length
  | .chunks remaining => remaining.length

/-- A read that yields bytes shortens the stream. -/
theorem length_read_lt
    {stream : Stream}
    {size : Int}
    {first : UInt8}
    {more : List UInt8}
    (nonempty : (stream.read size).1 = .ok (first :: more)) :
    (stream.read size).2.length < stream.length := by
  cases stream with
  | text remaining =>
    cases remaining with
    | nil => simp [read, utf8Bytes] at nonempty
    | cons character rest =>
      by_cases none_taken : taken size (rest.length + 1) = 0
      · simp [read, none_taken, utf8Bytes] at nonempty
      · simp [read, length]
        omega
  | bytes remaining =>
    cases remaining with
    | nil => simp [read] at nonempty
    | cons byte rest =>
      by_cases none_taken : taken size (rest.length + 1) = 0
      · simp [read, none_taken] at nonempty
      · simp [read, length]
        omega
  | chunks remaining =>
    cases remaining with
    | nil => simp [read] at nonempty
    | cons chunk rest => cases chunk <;> simp [read, length]

end Stream

end Brainfuck
