import Brainfuck.Proofs.Program.Filtering
import Brainfuck.Proofs.Session.Action

namespace Brainfuck

/-!
# Loading streams

The program of a stream does not depend on how the stream is cut into chunks, nor
on how often the buffer grows on the way: it is the program of all that the stream
yields up to its end.  A failure on the way is raised, and nothing is loaded; so is
a size of chunks that cannot be asked for, or for which a file gets no buffer.
-/

/-- Whether text and byte streams can be read to their end in chunks of a size. -/
def IsChunkSize (size : Int) : Prop :=
  size = -1 ∨ 0 < size ∧ size < sizeLimit

/-- Whether files can be read to their end on a host in chunks of a size. -/
def Host.CanRead
    (host : Host)
    (size : Int) :
    Prop :=
  size = -1 ∨ 0 < size ∧ size < bytesLimit ∧ host.grantsRead size.toNat = true

/-- Why a host cannot read files in chunks of a size that is positive. -/
def readFailure (size : Int) : Failure :=
  if (sizeLimit : Int) ≤ size then .readSizeTooWide
  else if (bytesLimit : Int) ≤ size then .readTooLong
  else .outOfMemory

theorem IsChunkSize.isIndex
    {size : Int}
    (chunkSize : IsChunkSize size) :
    Brainfuck.isIndex size = true := by
  unfold IsChunkSize at chunkSize
  refine Bool.and_eq_true_iff.mpr ⟨decide_eq_true ?_, decide_eq_true ?_⟩ <;>
    unfold sizeLimit at * <;>
    omega

theorem isIndex_of_sizeLimit_le
    {size : Int}
    (wide : (sizeLimit : Int) ≤ size) :
    isIndex size = false :=
  Bool.and_eq_false_iff.mpr (.inr (decide_eq_false (Int.not_lt.mpr wide)))

theorem Host.CanRead.isChunkSize
    {host : Host}
    {size : Int}
    (readable : host.CanRead size) :
    IsChunkSize size := by
  rcases readable with whole | ⟨positive, short, _⟩
  · exact .inl whole
  · refine .inr ⟨positive, ?_⟩
    unfold bytesLimit sizeLimit at *
    omega

/-- Every host reads files in chunks of the usual size. -/
theorem Host.canRead_defaultChunkSize (host : Host) :
    host.CanRead Program.defaultChunkSize :=
  .inr ⟨by decide, by decide, host.grantsRead_usualRead⟩

theorem utf8Bytes_eq_nil_iff {characters : List Char} :
    utf8Bytes characters = [] ↔ characters = [] := by
  cases characters with
  | nil =>
      exact ⟨fun _ => rfl, fun _ => rfl⟩
  | cons character rest =>
      obtain ⟨first, more, encoded⟩ := exists_utf8EncodeChar_eq_cons character
      rw [utf8Bytes_cons, encoded]
      constructor <;>
        intro empty <;>
        cases empty

theorem utf8Bytes_take_append_drop
    (count : Nat)
    (characters : List Char) :
    utf8Bytes (characters.take count) ++ utf8Bytes (characters.drop count) =
      utf8Bytes characters := by
  rw [utf8Bytes, utf8Bytes, ← List.flatMap_append, List.take_append_drop]
  rfl

namespace Chunk

/-- Whether chunks answer reads with the given parts, none of which is empty. -/
structure Yield
    (chunks : List Chunk)
    (parts : List (List UInt8)) :
    Prop where
  answers : chunks.map answer = parts.map .ok
  nonempty : [] ∉ parts

/-- Behind chunks that are not empty, the content goes on with that of the other ones. -/
theorem Yield.contents_append
    {chunks : List Chunk}
    {parts : List (List UInt8)}
    (yields : Yield chunks parts)
    (rest : List Chunk) :
    contents (chunks ++ rest) = (contents rest).map (parts.flatten ++ ·) := by
  obtain ⟨answered, nonempty⟩ := yields
  induction chunks generalizing parts with
  | nil =>
      cases parts with
      | nil =>
          cases shown : contents rest <;> simp only [List.nil_append, shown] <;> rfl
      | cons part more =>
          cases answered
  | cons chunk later inductionHypothesis =>
      cases parts with
      | nil =>
          cases answered
      | cons part more =>
          rw [List.map_cons, List.map_cons, List.cons.injEq] at answered
          rw [List.mem_cons, not_or] at nonempty
          have tail := inductionHypothesis answered.2 nonempty.2
          cases part with
          | nil =>
              exact absurd rfl nonempty.1
          | cons first bytes =>
              rw [List.cons_append, contents, answered.1]
              simp only [tail]
              cases contents rest with
              | error cause =>
                  rfl
              | ok content =>
                  simp only [Except.map, List.flatten_cons, List.append_assoc]

end Chunk

namespace Stream

/--
Whether reads of a given size come to the end of a stream: those that can be asked
for, and ask for something, do.
-/
def IsReadThrough
    (stream : Stream)
    (size : Int) :
    Prop :=
  match stream with
  | .chunks _ => True
  | _ => size ≠ 0 ∧ isIndex size = true

variable
  {stream : Stream}
  {size : Int}

theorem IsReadThrough.next
    (through : stream.IsReadThrough size) :
    (stream.read size).2.IsReadThrough size := by
  cases stream with
  | text remaining =>
      exact through
  | bytes remaining =>
      exact through
  | chunks remaining =>
      cases remaining with
      | nil =>
          trivial
      | cons chunk rest =>
          cases chunk <;> trivial

theorem IsReadThrough.admits
    (through : stream.IsReadThrough size) :
    stream.admits size = true := by
  cases stream with
  | text | bytes =>
      exact through.2
  | chunks =>
      rfl

theorem isReadThrough_of_isChunkSize
    (stream : Stream)
    (chunkSize : IsChunkSize size) :
    stream.IsReadThrough size := by
  have asks : size ≠ 0 := by
    unfold IsChunkSize at chunkSize
    omega
  cases stream with
  | text | bytes =>
      exact ⟨asks, chunkSize.isIndex⟩
  | chunks remaining =>
      trivial

/-- A read that asks for something takes nothing only where there is nothing. -/
theorem eq_nil_of_take_taken
    {α : Type}
    {items : List α}
    (asks : size ≠ 0)
    (empty : items.take (taken size items.length) = []) :
    items = [] := by
  rw [List.take_eq_nil_iff] at empty
  rcases empty with none_taken | empty
  · unfold taken at none_taken
    split at none_taken
    · exact List.length_eq_zero_iff.mp none_taken
    · omega
  · exact empty

/-- What a stream yields is what a read yields, and then what the rest of the stream yields. -/
theorem content_eq_read (through : stream.IsReadThrough size) :
    stream.content =
      match (stream.read size).1 with
      | .error cause => .error cause
      | .ok [] => .ok []
      | .ok (first :: more) => (stream.read size).2.content.map (first :: more ++ ·) := by
  cases stream with
  | text remaining =>
      simp only [read, content]
      split
      · next failed =>
          cases failed
      · next ended =>
          have empty := utf8Bytes_eq_nil_iff.mp (Except.ok.inj ended)
          rw [eq_nil_of_take_taken through.1 empty]
          rfl
      · next first more answered =>
          rw [← Except.ok.inj answered, Except.map, utf8Bytes_take_append_drop]
  | bytes remaining =>
      simp only [read, content]
      split
      · next failed =>
          cases failed
      · next ended =>
          rw [eq_nil_of_take_taken through.1 (Except.ok.inj ended)]
      · next first more answered =>
          rw [← Except.ok.inj answered, Except.map, List.take_append_drop]
  | chunks remaining =>
      cases remaining with
      | nil =>
          rfl
      | cons chunk rest =>
          rw [content, Chunk.contents]
          cases chunk <;> rfl

end Stream

namespace Program

variable
  {stream : Stream}
  {size : Int}

/-- Filling a buffer from a stream appends the commands of all that the stream yields. -/
theorem fill_eq_content
    (through : stream.IsReadThrough size)
    (buffer : Buffer)
    (total : Nat) :
    match stream.content with
    | .error cause => fill stream size buffer total = .error (.streamFailed cause)
    | .ok content =>
        ∃ longer, fill stream size buffer total = .ok (longer, total + content.length) ∧
          longer.contents.toList = buffer.contents.toList ++ Buffer.commands content := by
  fun_induction fill stream size buffer total with
  | case1 stream buffer total cause answered =>
      rw [Stream.content_eq_read through, answered]
  | case2 stream buffer total answered =>
      rw [Stream.content_eq_read through, answered]
      exact ⟨buffer, rfl, (List.append_nil _).symm⟩
  | case3 stream buffer total first bytes answered failure refused =>
      -- Room is always granted, so that no read is refused.
      obtain ⟨longer, extended, _⟩ := buffer.exists_extend (first :: bytes)
      rw [extended] at refused
      cases refused
  | case4 stream buffer total first bytes answered longer kept extended inductionHypothesis =>
      obtain ⟨other, same, contents⟩ := buffer.exists_extend (first :: bytes)
      rw [extended] at same
      cases same
      have rest := inductionHypothesis through.next
      rw [Stream.content_eq_read through, answered]
      cases shown : (stream.read size).2.content with
      | error cause =>
          simp only [shown] at rest
          exact rest
      | ok content =>
          simp only [shown] at rest
          obtain ⟨last, filled, appended⟩ := rest
          refine ⟨last, ?_, ?_⟩
          · rw [filled]
            simp only [List.length_append, List.length_cons, Nat.add_assoc]
          · rw [appended, contents, Buffer.commands_append, List.append_assoc]

/-- The program of a stream is that of all that the stream yields. -/
theorem loadStream_eq_content (through : stream.IsReadThrough size) :
    loadStream stream size =
      match stream.content with
      | .error cause => .error (.streamFailed cause)
      | .ok content => .ok (ofOpcodes (Buffer.commands content), content.length) := by
  let empty : Buffer := ⟨#[], 64, by omega⟩
  have filled := fill_eq_content through empty 0
  have created : Buffer.create Buffer.defaultCapacity alwaysGranted = .ok empty := rfl
  have checked : checkChunkSize stream size = .ok () := if_pos through.admits
  unfold loadStream
  rw [Outcome.bind_of_ok created, Outcome.bind_of_ok checked]
  cases shown : stream.content with
  | error cause =>
      simp only [shown] at filled
      exact Outcome.bind_of_error filled _
  | ok content =>
      simp only [shown] at filled
      obtain ⟨longer, filled, contents⟩ := filled
      rw [Outcome.bind_of_ok filled]
      change Except.ok (longer.freeze, 0 + content.length) = _
      rw [Nat.zero_add, Buffer.freeze, contents]
      rfl

/-- A stream is not read in a size that it cannot be asked for. -/
theorem loadStream_of_not_admits (wide : stream.admits size = false) :
    loadStream stream size = .error .readSizeTooWide := by
  have created : Buffer.create Buffer.defaultCapacity alwaysGranted = .ok ⟨#[], 64, by omega⟩ :=
    rfl
  have checked : checkChunkSize stream size = .error .readSizeTooWide :=
    if_neg (Bool.eq_false_iff.mp wide)
  unfold loadStream
  rw [Outcome.bind_of_ok created, Outcome.bind_of_error checked]

end Program

namespace Session

variable
  {stream : Stream}
  {size : Int}
  {session opened : Session}

theorem loadStream_of_ok
    {program : Program}
    {total : Nat}
    (loads : Program.loadStream stream size = .ok (program, total))
    (session : Session) :
    loadStream stream size session =
      .ok program
        { session with
          journal := session.journal.push (.notice (.streamLoaded program.size total)) } := by
  unfold loadStream
  rw [bind_of_ok (lift_of_ok loads session)]
  rfl

theorem loadStream_of_error
    {failure : Failure}
    (fails : Program.loadStream stream size = .error failure)
    (session : Session) :
    loadStream stream size session = .error failure session := by
  unfold loadStream
  rw [bind_of_error (lift_of_error fails session)]

theorem checkReadSize_of_canRead
    {host : Host}
    (readable : host.CanRead size) :
    checkReadSize host size = .ok () := by
  have index := readable.isChunkSize.isIndex
  unfold checkReadSize
  rcases readable with rfl | ⟨positive, short, granted⟩
  · rfl
  · have nonnegative : ¬ size < -1 := by omega
    have fits : ¬ (bytesLimit : Int) ≤ size := by omega
    simp only [index, nonnegative, fits, granted, Bool.not_true, Bool.and_false,
      Bool.false_eq_true, ↓reduceIte]

theorem checkReadSize_of_not_canRead
    {host : Host}
    (positive : 0 < size)
    (unreadable : ¬ host.CanRead size) :
    checkReadSize host size = .error (readFailure size) := by
  have nonnegative : ¬ size < -1 := by omega
  unfold checkReadSize readFailure
  by_cases wide : (sizeLimit : Int) ≤ size
  · have outside := isIndex_of_sizeLimit_le wide
    simp only [outside, wide, Bool.not_false, ↓reduceIte]
  · have index : isIndex size = true := IsChunkSize.isIndex (.inr ⟨positive, by omega⟩)
    by_cases long : (bytesLimit : Int) ≤ size
    · simp only [index, wide, nonnegative, long, Bool.not_true, Bool.false_eq_true, ↓reduceIte]
    · have refused : host.grantsRead size.toNat = false :=
        Bool.eq_false_iff.mpr fun granted => unreadable (.inr ⟨positive, by omega, granted⟩)
      simp only [index, wide, nonnegative, long, positive, refused, Bool.not_true,
        Bool.not_false, Bool.and_true, decide_true, Bool.false_eq_true, ↓reduceIte]

/-- A file is loaded as the stream that it is opened as, and reads that fail name the file. -/
theorem loadFile_of_openFile
    {path : File.Path}
    (opens : openFile path session = .ok stream opened)
    (checked : checkReadSize opened.host size = .ok ()) :
    loadFile path size session =
      (tryCatch (loadStream stream size) fun failure => throw (namingFile path failure))
        opened := by
  unfold loadFile
  rw [bind_of_ok opens, get_bind, bind_of_ok (lift_of_ok checked opened)]

theorem loadFile_of_refusedSize
    {path : File.Path}
    {failure : Failure}
    (opens : openFile path session = .ok stream opened)
    (refused : checkReadSize opened.host size = .error failure) :
    loadFile path size session = .error failure opened := by
  unfold loadFile
  rw [bind_of_ok opens, get_bind, bind_of_error (lift_of_error refused opened)]

end Session

namespace Program

/-- How the program of a stream depends on the chunks in which it is read: not at all. -/
structure LoadIgnoresChunks : Prop where
  /-- Chunks are loaded as all their bytes together, up to the first empty one. -/
  chunks : ∀ (chunks : List Chunk) (parts : List (List UInt8)) (rest : List Chunk) (size : Int),
    Chunk.Yield chunks parts →
      (rest = [] ∨ ∃ final later, rest = final :: later ∧ final.answer = .ok []) →
        ∃ program, load (.bytes parts.flatten) = .ok program ∧
          loadStream (.chunks (chunks ++ rest)) size = .ok (program, parts.flatten.length)
  /-- A read that fails before the first empty chunk is raised. -/
  failingChunk : ∀ (chunks : List Chunk) (parts : List (List UInt8)) (cause : SystemError)
      (rest : List Chunk) (size : Int),
    Chunk.Yield chunks parts →
      loadStream (.chunks (chunks ++ .failure cause :: rest)) size =
        .error (.streamFailed cause)
  /-- Text is loaded as a whole, whatever the size of the chunks. -/
  text : ∀ (content : String) (size : Int), IsChunkSize size →
    ∃ program, load (.text content) = .ok program ∧
      loadStream (.text content.toList) size = .ok (program, content.utf8ByteSize)
  /-- Bytes are loaded as a whole, whatever the size of the chunks. -/
  bytes : ∀ (content : List UInt8) (size : Int), IsChunkSize size →
    ∃ program, load (.bytes content) = .ok program ∧
      loadStream (.bytes content) size = .ok (program, content.length)
  /-- Neither is read in a size that is too wide. -/
  tooWide : ∀ (text : String) (bytes : List UInt8) (size : Int), (sizeLimit : Int) ≤ size →
    loadStream (.text text.toList) size = .error .readSizeTooWide ∧
      loadStream (.bytes bytes) size = .error .readSizeTooWide
  /-- A file that can be read is loaded as its content. -/
  file : ∀ (path : File.Path) (content : List UInt8) (size : Int) (session : Session),
    session.host.CanRead size →
      Session.openFile path session = .ok (.bytes content) session →
        ∃ program left, load (.bytes content) = .ok program ∧
          Session.loadFile path size session = .ok program left
  /-- A file whose reads fail before its end is refused by its name. -/
  failingFile : ∀ (path : File.Path) (chunks : List Chunk) (parts : List (List UInt8))
      (cause : SystemError) (rest : List Chunk) (size : Int) (session : Session),
    session.host.CanRead size →
      Session.openFile path session =
          .ok (.chunks (chunks ++ .failure cause :: rest)) session →
        Chunk.Yield chunks parts →
          Session.loadFile path size session =
            .error (.unreadableFile path.toText (.failed cause)) session
  /-- No file is read in a positive size for which the host has no buffer. -/
  unbuffered : ∀ (path : File.Path) (stream : Stream) (size : Int) (session : Session),
    0 < size → ¬ session.host.CanRead size →
      Session.openFile path session = .ok stream session →
        Session.loadFile path size session = .error (readFailure size) session

theorem loadStream_of_content
    {stream : Stream}
    {size : Int}
    {content : List UInt8}
    (through : stream.IsReadThrough size)
    (shown : stream.content = .ok content) :
    loadStream stream size = .ok (ofOpcodes (Buffer.commands content), content.length) := by
  rw [loadStream_eq_content through, shown]

theorem loadStream_of_failingChunk
    {chunks : List Chunk}
    {parts : List (List UInt8)}
    (yields : Chunk.Yield chunks parts)
    (cause : SystemError)
    (rest : List Chunk)
    (size : Int) :
    loadStream (.chunks (chunks ++ .failure cause :: rest)) size =
      .error (.streamFailed cause) := by
  have through : (Stream.chunks (chunks ++ .failure cause :: rest)).IsReadThrough size := trivial
  have fails :
      (Stream.chunks (chunks ++ .failure cause :: rest)).content = .error cause :=
    yields.contents_append (.failure cause :: rest)
  rw [loadStream_eq_content through, fails]

end Program

end Brainfuck
