import Brainfuck.Proofs.File.Naming
import Brainfuck.Proofs.Program.Streaming
import Brainfuck.Proofs.Session.Undisturbed

namespace Brainfuck.Session

/-!
# Reading program files

A program file is loaded as the source that consists of its bytes, and a file
that cannot be read is reported with its path and the problem.
-/

variable
  {path : File.Path}
  {size : Int}
  {session : Session}

theorem checkPath_of_isPlain
    (plain : path.IsPlain)
    (session : Session) :
    checkPath path session = .ok () session := by
  unfold checkPath
  rw [if_neg (by simpa [holdsNull] using plain.toText)]
  rfl

theorem openFile_of_stream
    {stream : Stream}
    (plain : path.IsPlain)
    (found : session.files.stream path = .ok stream) :
    openFile path session = .ok stream session := by
  unfold openFile
  rw [bind_of_ok (checkPath_of_isPlain plain session), get_bind, found]
  rfl

theorem openFile_of_problem
    {problem : File.Problem}
    (plain : path.IsPlain)
    (closed : session.files.stream path = .error problem) :
    openFile path session = .error (.unreadableFile path.toText problem) session := by
  unfold openFile
  rw [bind_of_ok (checkPath_of_isPlain plain session), get_bind, closed]
  rfl

theorem loadStream_of_isChunkSize
    (chunkSize : IsChunkSize size)
    (stream : Stream)
    (session : Session) :
    loadStream stream size session =
      match stream.content with
      | .error cause => .error (.streamFailed cause) session
      | .ok content =>
          .ok (.ofOpcodes (Buffer.commands content))
            { session with
              journal := session.journal.push
                (.notice (.streamLoaded (Program.ofOpcodes (Buffer.commands content)).size
                  content.length)) } := by
  have loads :=
    Program.loadStream_eq_content (Stream.isReadThrough_of_isChunkSize stream chunkSize)
  cases shown : stream.content with
  | error cause =>
      rw [shown] at loads
      exact loadStream_of_error loads session
  | ok content =>
      rw [shown] at loads
      exact loadStream_of_ok loads session

/--
A file is loaded as its bytes are; one that cannot be read is reported with its path,
whether it can be opened or not.
-/
theorem loadFile_eq_read
    (plain : path.IsPlain)
    (readable : session.host.CanRead size) :
    loadFile path size session =
      match session.files.read path with
      | .error problem => .error (.unreadableFile path.toText problem) session
      | .ok content =>
          .ok (.ofOpcodes (Buffer.commands content))
            { session with
              journal := session.journal.push
                (.notice (.streamLoaded (Program.ofOpcodes (Buffer.commands content)).size
                  content.length)) } := by
  unfold File.Store.read
  cases found : session.files.stream path with
  | error problem =>
      unfold loadFile
      rw [bind_of_error (openFile_of_problem plain found)]
      rfl
  | ok stream =>
      have opens := openFile_of_stream plain found
      have loads := loadStream_of_isChunkSize readable.isChunkSize stream session
      rw [loadFile_of_openFile opens (checkReadSize_of_canRead readable)]
      cases shown : stream.content with
      | error cause =>
          rw [shown] at loads
          rw [tryCatch_of_error loads]
          simp only [bind, Except.bind, shown, Except.mapError]
          rfl
      | ok content =>
          rw [shown] at loads
          rw [tryCatch_of_ok loads]
          simp only [bind, Except.bind, shown, Except.mapError]

end Brainfuck.Session
