import Brainfuck.CSource
import Brainfuck.Console.Output
import Brainfuck.File.Store
import Brainfuck.Options
import Brainfuck.Program.Loader
import Brainfuck.Toolchain

namespace Brainfuck

/-!
# Sessions

A session is the world in which the library works: a host, its files, a
toolchain, the input and output of programs, and a journal of notices and
messages.  The operations of the library are actions on it.
-/

/-- A line of the journal: a notice for debugging, or a message to the user. -/
inductive Entry where
  | notice (notice : Notice)
  | message (text : String)
  deriving Repr, DecidableEq

/--
Host, files, toolchain, console and journal.  `scratch` names the directory for
temporary files, and `elapsed` is how a measured time is shown.
-/
structure Session where
  host : Host
  files : File.Store
  toolchain : Toolchain
  channel : Channel
  journal : Array Entry
  scratch : String
  elapsed : String

/-- An operation on a session. -/
abbrev Action (α : Type) :=
  EStateM Failure Session α

namespace Session

/-- The result of a computation that does not touch the session. -/
def lift
    {α : Type}
    (outcome : Outcome α) :
    Action α :=
  match outcome with
  | .ok value => pure value
  | .error failure => throw failure

/-- Adds a notice to the journal. -/
def note (notice : Notice) : Action Unit :=
  modify fun session => { session with journal := session.journal.push (.notice notice) }

/-- Adds a message to the journal. -/
def tell (text : String) : Action Unit :=
  modify fun session => { session with journal := session.journal.push (.message text) }

/-- Refuses a path that holds a null character. -/
def checkPath (path : File.Path) : Action Unit :=
  if holdsNull path.toText then throw .nullInPath else pure ()

/-- Opens a file for reading. -/
def openFile (path : File.Path) : Action Stream := do
  checkPath path
  let session ← get
  match session.files.stream path with
  | .ok stream => return stream
  | .error problem => throw (.unreadableFile path.toText problem)

/-- Writes a text to a file. -/
def writeFile
    (path : File.Path)
    (text : String) :
    Action Unit := do
  checkPath path
  let session ← get
  match session.files.write path (utf8Bytes text.toList) with
  | .ok files => set { session with files }
  | .error problem => throw (.unwritableFile path.toText problem)
  note (.fileWritten path.toText)

/-- Loads a program from a source that is at hand as a whole. -/
def loadSource (source : Source) : Action Program := do
  let program ← lift (Program.load source)
  note (.sourceLoaded program.size source.length)
  return program

/-- Loads a program from a stream. -/
def loadStream
    (stream : Stream)
    (chunkSize : Int) :
    Action Program := do
  let (program, total) ← lift (Program.loadStream stream chunkSize)
  note (.streamLoaded program.size total)
  return program

/-- The failure of a file whose reads fail, as one that names the file. -/
def namingFile
    (path : File.Path)
    (failure : Failure) :
    Failure :=
  match failure with
  | .streamFailed cause => .unreadableFile path.toText (.failed cause)
  | failure => failure

/--
Refuses a size that a file cannot be read in: of the negative sizes only `-1` is
allowed, and a positive one needs a buffer of the host.
-/
def checkReadSize
    (host : Host)
    (size : Int) :
    Outcome Unit :=
  if !isIndex size then .error .readSizeTooWide
  else if size < -1 then .error .negativeReadSize
  else if bytesLimit ≤ size then .error .readTooLong
  else if 0 < size && !host.grantsRead size.toNat then .error .outOfMemory
  else .ok ()

/-- Loads a program from a file. -/
def loadFile
    (path : File.Path)
    (chunkSize : Int) :
    Action Program := do
  let stream ← openFile path
  let session ← get
  lift (checkReadSize session.host chunkSize)
  try
    loadStream stream chunkSize
  catch failure => throw (namingFile path failure)

/-- Resolves the loops of a program. -/
def resolveLoops (program : Program) : Action JumpTable := do
  let table ← lift program.resolveLoops
  note (.loopsResolved (program.countOpcode .loopOpen) program.size)
  return table

/-- Puts an engine together, resolving the loops of its program unless a table is given. -/
def createEngine
    (program : Program)
    (table? : Option JumpTable)
    (tapeSize : Int)
    (batched : Bool)
    (batchSteps : Int) :
    Action Engine := do
  let session ← get
  let engine ←
    lift (Engine.create session.host program table? tapeSize batched batchSteps)
  if table?.isNone then
    note (.loopsResolved (program.countOpcode .loopOpen) program.size)
  return engine

/-- Adds the notices of an engine to the journal and takes over its console. -/
def afterEngine
    (session : Session)
    (state : Engine.State Channel) :
    Session :=
  { session with
    channel := state.channel
    journal := session.journal ++ state.notices.map Entry.notice }

/-- Runs an engine from its initial state on the console of the session. -/
def runEngine
    (engine : Engine)
    (fuel : Nat) :
    Action (Option Machine) := fun session =>
  match engine.run Channel.console fuel (.initial session.channel) with
  | .ok last state => .ok last (session.afterEngine state)
  | .error failure state => .error failure (session.afterEngine state)

/-- Runs a program; the answer is nothing if the fuel did not last. -/
def runProgram
    (program : Program)
    (options : RunOptions)
    (fuel : Nat) :
    Action (Option Machine) := do
  let table ← resolveLoops program
  let session ← get
  runEngine
    { program
      table
      tapeSize := options.tapeSize
      batched := options.batched
      batchSteps := options.batchSteps
      host := session.host }
    fuel

/-- Loads a program from a source and runs it. -/
def runSource
    (source : Source)
    (options : RunOptions)
    (fuel : Nat) :
    Action (Option Machine) := do
  let program ← loadSource source
  runProgram program options fuel

/-- Loads a program from a file and runs it. -/
def runFile
    (path : File.Path)
    (options : RunOptions)
    (fuel : Nat) :
    Action (Option Machine) := do
  let program ← loadFile path Program.defaultChunkSize
  runProgram program options fuel

/-- Generates C source, and answers with the generator as it was left. -/
def generate
    (generator : Generator)
    (program : Program) :
    Action (Outcome String × Generator) := do
  if program.resolveLoops.isOk then
    note (.loopsResolved (program.countOpcode .loopOpen) program.size)
  match Generator.generate program generator with
  | .ok text next =>
      note (.codeGenerated next.lines.size program.size)
      return (.ok text, next)
  | .error failure next => return (.error failure, next)

/-- Generates C source into a file, and answers with the generator as it was left. -/
def writeTranslationUnit
    (generator : Generator)
    (program : Program)
    (path : File.Path) :
    Action (Outcome File.Path × Generator) := do
  let (result, next) ← generate generator program
  match result with
  | .error failure => return (.error failure, next)
  | .ok text =>
      try
        writeFile path text
        return (.ok path, next)
      catch failure => return (.error failure, next)

/-- Turns a program into C source, and writes it to a file if a path is given. -/
def transpile
    (program : Program)
    (options : TranspileOptions)
    (path : Option File.Path) :
    Action String := do
  let generator ← lift (Generator.create options.tapeSize)
  let (result, _) ← generate generator program
  let text ← lift result
  match path with
  | none => return text
  | some path =>
      writeFile path text
      return text

/-- Loads a program from a source and turns it into C source. -/
def transpileSource
    (source : Source)
    (options : TranspileOptions)
    (path : Option File.Path) :
    Action String := do
  let program ← loadSource source
  transpile program options path

/-- Loads a program from a file and turns it into C source. -/
def transpileFile
    (file : File.Path)
    (options : TranspileOptions)
    (path : Option File.Path) :
    Action String := do
  let program ← loadFile file Program.defaultChunkSize
  transpile program options path

end Session

end Brainfuck
