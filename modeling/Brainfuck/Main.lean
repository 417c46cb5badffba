import Brainfuck.CommandLine

namespace Brainfuck

/-!
# The executable

Copies the part of the file system that a command line may touch into a store,
runs the command line on it, and carries the changes and the output back.  No
program is started: C source can be generated, but no compiler is ever found.
-/

namespace Executable

/-- The fuel of a run: more steps than a computer can take. -/
def fuel : Nat :=
  1000000000000000000

/-- The absolute path of a location. -/
def absolute (location : File.Location) : String :=
  "/" ++ "/".intercalate location

/-- What the file system has at a location. -/
def probe (location : File.Location) : IO (Option File.Node) := do
  try
    let content ← IO.FS.readBinFile (absolute location)
    return some (.file content.toList)
  catch
    | .noFileOrDirectory .. => return none
    | _ => return some .directory

/-- Copies what lies on the way of a path into a store. -/
def copyPath
    (store : File.Store)
    (location : File.Location) :
    List String → IO File.Store
  | [] => return store
  | ".." :: rest => copyPath store location.dropLast rest
  | name :: rest => do
      let next := location ++ [name]
      match ← probe next with
      | none => return store
      | some node => copyPath (store.insert next node) next rest

/-- All bytes of a stream. -/
partial def readAll
    (stream : IO.FS.Stream)
    (read : ByteArray) :
    IO ByteArray := do
  let chunk ← stream.read 65536
  if chunk.isEmpty then return read else readAll stream (read ++ chunk)

/--
The session of a command line before its input is read.  Its toolchain finds no
program, so that compiling ends in the report that there is no compiler of the
name that the command line or the environment gives.
-/
def openSession (words : List String) : IO Session := do
  let directory := (File.Path.ofText (← IO.currentDir).toString).parts
  let mut store := File.Store.empty directory
  if let .ok arguments := CommandLine.parseArguments words then
    for path in CommandLine.involvedPaths arguments do
      store ← copyPath store (store.origin path) path.parts
  return {
    host := .large
    files := store
    toolchain := { Toolchain.none with preferred := ← IO.getEnv "CC" }
    channel := { input := .empty, output := .stream true .fresh }
    journal := #[]
    scratch := "/tmp/bfc-scratch"
    elapsed := "0.00" }

/-- The session with the bytes of the standard input, if the program may ask for them. -/
def openInput
    (words : List String)
    (session : Session) :
    IO Session := do
  match CommandLine.parseArguments words with
  | .error _ => return session
  | .ok arguments =>
      if CommandLine.wantsInput arguments session then
        let content ← readAll (← IO.getStdin) .empty
        return { session with
          channel := { session.channel with input := .memory content.toList } }
      else
        return session

/-- The exit code of a way to end; what an unexpected failure reports goes to the error stream. -/
def exitCode : CommandLine.Exit → IO UInt32
  | .returned status => return status.toNat.toUInt32
  | .left status => return status.toNat.toUInt32
  | .raised failure => do
      IO.eprintln failure.message
      return 1
  | .unfinished => return 1

end Executable

end Brainfuck

open Brainfuck Executable in
/-- Runs the command line of the process. -/
def main (words : List String) : IO UInt32 := do
  let start ← openInput words (← openSession words)
  let result := CommandLine.run words fuel start
  let output ← IO.getStdout
  output.write ⟨result.session.channel.output.bytes⟩
  output.flush
  for (location, content) in result.session.files.changesSince start.files do
    IO.FS.writeBinFile (absolute location) ⟨content.toArray⟩
  IO.eprint result.errorText
  exitCode result.exit
