import Brainfuck.Console.Input
import Brainfuck.Proofs.Program.Filtering

namespace Brainfuck

/-!
# Flattening chunks

Requests for input see a stream as one flat sequence of outcomes, however the stream
is cut into chunks.  The invariant is that what was answered so far, followed by the
bytes that are pending, is what the chunks taken from the stream so far come to.  A
chunk is only taken when nothing is pending, so that no byte waits behind another
chunk.
-/

namespace Reading

/-- The answer to a request that gets a byte. -/
def ofByte (byte : UInt8) : Reading :=
  .number byte.toNat

end Reading

namespace Chunk

/-- What requests for input are answered on account of a chunk. -/
def outcomes (chunk : Chunk) : List Reading :=
  match chunk.answer with
  | .error cause => [.failure cause]
  | .ok [] => [.endOfInput]
  | .ok content => content.map .ofByte

end Chunk

namespace Stream

/-- What requests for input are answered before they get nothing but the end of a stream. -/
def outcomes : Stream → List Reading
  | .text remaining => (utf8Bytes remaining).map .ofByte
  | .bytes remaining => remaining.map .ofByte
  | .chunks remaining => remaining.flatMap Chunk.outcomes

/-- The answers to the first reads of a script: its chunks, and empty ones behind them. -/
def answered
    (script : List Chunk)
    (reads : Nat) :
    List Chunk :=
  (List.range reads).map fun index => script.getD index (.bytes [])

end Stream

namespace Input

/-- What requests are answered before they get nothing but the end of input. -/
def outcomes : Input → List Reading
  | .memory remaining => remaining.map .ofByte
  | .stream pending source => pending.map .ofByte ++ source.outcomes
  | .answers remaining => remaining

/-- Whether the next request has to read a stream, because no byte is pending. -/
def isIdle : Input → Bool
  | .stream [] _ => true
  | _ => false

/-- How many of a number of requests find no byte pending. -/
def idleRequests
    (count : Nat)
    (input : Input) :
    Nat :=
  (List.range count).countP fun earlier => (readMany earlier input).2.isIdle

/-- What requests have made of a stream of chunks. -/
structure Conserves
    (script : List Chunk)
    (count : Nat)
    (reads : Nat)
    (pending : List UInt8) :
    Prop where
  /-- The chunks that were read are gone from the stream, and no others. -/
  state : (readMany count (.ofStream (.chunks script))).2 =
    .stream pending (.chunks (script.drop reads))
  /-- The answers and the pending bytes are what the chunks that were read come to. -/
  conserved : (readMany count (.ofStream (.chunks script))).1 ++ pending.map .ofByte =
    (Stream.answered script reads).flatMap Chunk.outcomes
  /-- With fewer reads there would not be enough to answer. -/
  needed : ∀ fewer, fewer < reads →
    ((Stream.answered script fewer).flatMap Chunk.outcomes).length < count

/-- How requests for input see streams. -/
structure FlattensStreams : Prop where
  /-- Requests are answered with the outcomes of the chunks in order, and then with the end. -/
  flattened : ∀ script count,
    (readMany count (.ofStream (.chunks script))).1 =
      (script.flatMap Chunk.outcomes ++ List.replicate count Reading.endOfInput).take count
  /-- Exactly the requests that find no byte pending read the stream, and nothing is lost. -/
  conserved : ∀ script count,
    ∃ pending,
      Conserves script count (idleRequests count (.ofStream (.chunks script))) pending
  /-- A request that finds a byte pending gets it, and leaves the stream alone. -/
  untouched : ∀ pending source, pending ≠ [] →
    ∃ byte rest, pending = byte :: rest ∧
      (Input.stream pending source).read = (.ofByte byte, .stream rest source)
  /-- Text is read alike from a stream of characters, a stream of bytes, and memory. -/
  ordinary : ∀ (text : String) count,
    (readMany count (.ofStream (.text text.toList))).1 = (readMany count (.ofText text)).1 ∧
      (readMany count (.ofStream (.bytes text.toUTF8.data.toList))).1 =
        (readMany count (.ofText text)).1 ∧
      (readMany count (.ofText text)).1 =
        (text.toUTF8.data.toList.map Reading.ofByte ++
          List.replicate count Reading.endOfInput).take count

/-! ## One request -/

/-- The first outcome of a chunk, and the bytes that wait behind it. -/
theorem exists_outcomes_eq_cons (chunk : Chunk) :
    ∃ reading pending, chunk.outcomes = reading :: pending.map .ofByte ∧
      ∀ rest, (Input.stream [] (.chunks (chunk :: rest))).read =
        (reading, .stream pending (.chunks rest)) := by
  have taken (rest : List Chunk) :
      (Stream.chunks (chunk :: rest)).read 1 = (chunk.answer, .chunks rest) := by
    cases chunk <;> rfl
  simp only [Chunk.outcomes, read, taken]
  cases chunk.answer with
  | error cause =>
      exact ⟨.failure cause, [], rfl, fun _ => rfl⟩
  | ok content =>
      cases content with
      | nil =>
          exact ⟨.endOfInput, [], rfl, fun _ => rfl⟩
      | cons first more =>
          exact ⟨.ofByte first, more, rfl, fun _ => rfl⟩

/-- A request is answered with the first outcome, and the others stay. -/
theorem read_spec (input : Input) :
    input.read.1 = input.outcomes.headD .endOfInput ∧
      input.read.2.outcomes = input.outcomes.tail := by
  cases input with
  | memory remaining =>
      cases remaining <;> exact ⟨rfl, rfl⟩
  | answers remaining =>
      cases remaining <;> exact ⟨rfl, rfl⟩
  | stream pending source =>
      cases pending with
      | cons byte rest =>
          exact ⟨rfl, rfl⟩
      | nil =>
          cases source with
          | text remaining =>
              cases remaining with
              | nil =>
                  exact ⟨rfl, rfl⟩
              | cons character rest =>
                  -- The bytes of the character but the first wait in front of the other characters.
                  obtain ⟨first, more, encoded⟩ := exists_utf8EncodeChar_eq_cons character
                  have alone : utf8Bytes [character] = first :: more := by
                    rw [utf8Bytes_cons, encoded, utf8Bytes, List.flatMap_nil, List.append_nil]
                  simp [read, Stream.read, Stream.taken, outcomes, Stream.outcomes,
                    utf8Bytes_cons character rest, alone, encoded, Reading.ofByte]
          | bytes remaining =>
              cases remaining <;> exact ⟨rfl, rfl⟩
          | chunks remaining =>
              cases remaining with
              | nil =>
                  exact ⟨rfl, rfl⟩
              | cons chunk rest =>
                  obtain ⟨reading, waiting, shown, reads⟩ := exists_outcomes_eq_cons chunk
                  rw [reads rest]
                  simp only [outcomes, Stream.outcomes, List.flatMap_cons, shown, List.map_nil,
                    List.nil_append, List.cons_append]
                  exact ⟨rfl, rfl⟩

/-! ## Several requests -/

theorem readMany_cons
    (count : Nat)
    (input : Input) :
    readMany (count + 1) input =
      (input.read.1 :: (readMany count input.read.2).1, (readMany count input.read.2).2) :=
  rfl

/-- Requests are answered with the outcomes in order, and then with the end of input. -/
theorem readMany_eq_take
    (count : Nat)
    (input : Input) :
    (readMany count input).1 =
      (input.outcomes ++ List.replicate count Reading.endOfInput).take count := by
  induction count generalizing input with
  | zero =>
      rfl
  | succ count inductionHypothesis =>
      obtain ⟨answer, left⟩ := input.read_spec
      rw [readMany_cons, inductionHypothesis, answer, left]
      cases input.outcomes with
      | nil =>
          rfl
      | cons first rest =>
          -- One more end of input than the requests need makes no difference.
          have enough : count ≤ (rest ++ List.replicate count Reading.endOfInput).length := by
            rw [List.length_append, List.length_replicate]
            omega
          rw [List.cons_append, List.take_succ_cons, List.replicate_succ', ← List.append_assoc,
            List.take_append_of_le_length enough]
          rfl

theorem length_readMany
    (count : Nat)
    (input : Input) :
    (readMany count input).1.length = count := by
  rw [readMany_eq_take, List.length_take, List.length_append, List.length_replicate]
  omega

theorem readMany_succ
    (count : Nat)
    (input : Input) :
    readMany (count + 1) input =
      ((readMany count input).1 ++ [(readMany count input).2.read.1],
        (readMany count input).2.read.2) := by
  induction count generalizing input with
  | zero =>
      rfl
  | succ count inductionHypothesis =>
      rw [readMany_cons, inductionHypothesis, readMany_cons count]
      rfl

theorem idleRequests_succ
    (count : Nat)
    (input : Input) :
    idleRequests (count + 1) input =
      idleRequests count input + if (readMany count input).2.isIdle then 1 else 0 := by
  simp only [idleRequests, List.range_succ, List.countP_append, List.countP_singleton]

theorem flatMap_answered_succ
    (script : List Chunk)
    (reads : Nat) :
    (Stream.answered script (reads + 1)).flatMap Chunk.outcomes =
      (Stream.answered script reads).flatMap Chunk.outcomes ++
        (script.getD reads (.bytes [])).outcomes := by
  simp only [Stream.answered, List.range_succ, List.map_append, List.flatMap_append,
    List.map_cons, List.map_nil, List.flatMap_cons, List.flatMap_nil, List.append_nil]

/-- Without pending bytes, a request takes the next chunk, an empty one behind the script. -/
theorem exists_read_drop
    (script : List Chunk)
    (reads : Nat) :
    ∃ reading pending,
      (script.getD reads (.bytes [])).outcomes = reading :: pending.map .ofByte ∧
        (Input.stream [] (.chunks (script.drop reads))).read =
          (reading, .stream pending (.chunks (script.drop (reads + 1)))) := by
  by_cases inside : reads < script.length
  · obtain ⟨reading, pending, shown, taken⟩ := exists_outcomes_eq_cons script[reads]
    refine ⟨reading, pending, ?_, ?_⟩
    · rw [List.getD_eq_getElem?_getD, List.getElem?_eq_getElem inside]
      exact shown
    · rw [List.drop_eq_getElem_cons inside]
      exact taken _
  · have beyond : script.length ≤ reads := Nat.le_of_not_lt inside
    refine ⟨.endOfInput, [], ?_, ?_⟩
    · rw [List.getD_eq_getElem?_getD, List.getElem?_eq_none beyond]
      rfl
    · rw [List.drop_of_length_le beyond, List.drop_of_length_le (Nat.le_succ_of_le beyond)]
      rfl

/-- A request with a byte pending takes it and reads nothing. -/
theorem Conserves.pending
    {script : List Chunk}
    {count reads : Nat}
    {byte : UInt8}
    {rest : List UInt8}
    (before : Conserves script count reads (byte :: rest)) :
    Conserves script (count + 1) reads rest := by
  obtain ⟨state, conserved, needed⟩ := before
  constructor
  case state =>
    rw [readMany_succ, state]
    rfl
  case conserved =>
    rw [readMany_succ, state, ← conserved, List.map_cons, List.append_assoc]
    rfl
  case needed =>
    intro fewer less
    exact Nat.lt_succ_of_lt (needed fewer less)

/-- A request without a byte pending reads once. -/
theorem Conserves.idle
    {script : List Chunk}
    {count reads : Nat}
    (before : Conserves script count reads []) :
    ∃ pending, Conserves script (count + 1) (reads + 1) pending := by
  obtain ⟨state, conserved, needed⟩ := before
  obtain ⟨reading, pending, shown, taken⟩ := exists_read_drop script reads
  rw [List.map_nil, List.append_nil] at conserved
  refine ⟨pending, ?_, ?_, ?_⟩
  · rw [readMany_succ, state, taken]
  · rw [readMany_succ, state, taken, flatMap_answered_succ, ← conserved, shown,
      List.append_assoc]
    rfl
  · intro fewer less
    rcases Nat.lt_succ_iff_lt_or_eq.mp less with earlier | rfl
    · exact Nat.lt_succ_of_lt (needed fewer earlier)
    · -- What was read so far has all been answered.
      rw [← conserved, length_readMany]
      exact Nat.lt_succ_self count

/-- Requests read a stream of chunks when no byte is pending, and lose nothing of it. -/
theorem exists_conserves
    (script : List Chunk)
    (count : Nat) :
    ∃ pending,
      Conserves script count (idleRequests count (.ofStream (.chunks script))) pending := by
  induction count with
  | zero =>
      refine ⟨[], rfl, rfl, ?_⟩
      intro fewer less
      cases less
  | succ count inductionHypothesis =>
      obtain ⟨pending, before⟩ := inductionHypothesis
      -- Whether the last request counts as a read depends on the bytes pending in front of it.
      rw [idleRequests_succ, before.state]
      cases pending with
      | nil =>
          exact before.idle
      | cons byte rest =>
          exact ⟨rest, before.pending⟩

/-! ## Streams and memory -/

theorem readMany_congr
    {first second : Input}
    (same : first.outcomes = second.outcomes)
    (count : Nat) :
    (readMany count first).1 = (readMany count second).1 := by
  rw [readMany_eq_take, readMany_eq_take, same]

/-- Requests see a stream as the outcomes of its chunks in order, whatever the chunks are. -/
theorem flattensStreams : FlattensStreams where
  flattened _ count := readMany_eq_take count _
  conserved := exists_conserves
  untouched pending source waiting := by
    obtain ⟨byte, rest, rfl⟩ := List.exists_cons_of_ne_nil waiting
    exact ⟨byte, rest, rfl, rfl⟩
  ordinary text count := by
    rw [← utf8Bytes_toList]
    have characters : (ofStream (.text text.toList)).outcomes = (ofText text).outcomes := rfl
    have bytes : (ofStream (.bytes (utf8Bytes text.toList))).outcomes = (ofText text).outcomes :=
      rfl
    exact ⟨readMany_congr characters count, readMany_congr bytes count, readMany_eq_take count _⟩

/-- An end of input in the middle, and one byte of a character that waits behind another. -/
theorem flattensStreams_empty_chunk :
    (readMany 6 (.ofStream (.chunks [.text ['é'], .bytes [], .bytes [7, 8]]))).1 =
      [.number 195, .number 169, .endOfInput, .number 7, .number 8, .endOfInput] :=
  (flattensStreams.flattened _ _).trans (by decide)

end Input

end Brainfuck
