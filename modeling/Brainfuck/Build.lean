import Brainfuck.Session

namespace Brainfuck

/-!
# Building and running C programs

A program is turned into C, compiled to a temporary binary, and run.  Each
stage is only reached when the one before it succeeded, and temporary files
are gone in the end, whatever happened.
-/

namespace Build

/--
Makes the directory for temporary files for the time of the body.  What was in
its place before is there again when the body is done, and nothing else is.
-/
def withScratch
    {α : Type}
    (body : File.Path → Action α) :
    Action α := fun session =>
  let directory := File.Path.ofText session.scratch
  let location := session.files.origin directory ++ directory.parts
  let clean (left : Session) : Session :=
    { left with files := left.files.restoreTree session.files location }
  match body directory { session with files := session.files.makeDirectories location } with
  | .ok value left => .ok value (clean left)
  | .error failure left => .error failure (clean left)

/-- Looks for the compiler of the given name, or else for the default one. -/
def findCompiler (name : Option String) : Action String := do
  let session ← get
  let compiler := namedOr name (defaultCompiler session.toolchain.preferred)
  let (found, toolchain) := session.toolchain.search compiler
  set { session with toolchain }
  match found with
  | some path => return path
  | none => throw (.compilerNotFound compiler)

/-- Runs a command on the toolchain. -/
def runCommand (call : Call) : Action Response := do
  let session ← get
  let (response, toolchain) := session.toolchain.run call
  set { session with toolchain }
  return response

/-- Refuses a command with a word that the toolchain does not accept. -/
def checkCommand (command : List String) : Action Unit := do
  let session ← get
  if !session.toolchain.accepts command then throw .nullInCommand

/-- Calls a compiler that was found on a C file, for a binary. -/
def callCompiler
    (found : String)
    (command : List String)
    (source : String)
    (binary : String) :
    Action File.Path := do
  checkCommand command
  let session ← get
  match ← runCommand (.compile command (session.files.fileNamed? source)) with
  | .refused cause => throw (.compilerNotStarted found cause)
  | .exited status complaint =>
      if status = 0 then return .ofText binary
      else throw (.compilerRejected found status complaint)

/-- Compiles a C file; both files are named by text, which is passed on as it stands. -/
def compile
    (source : String)
    (binary : String)
    (compiler : Option String)
    (flags : List String) :
    Action File.Path := do
  let found ← findCompiler compiler
  let command := found :: flags ++ ["-o", binary, source]
  Session.note (.commandStarted (" ".intercalate command))
  callCompiler found command source binary

/-- Runs a binary; the answer is its exit status. -/
def execute (binary : String) : Action Int := do
  Session.note (.commandStarted binary)
  match ← runCommand (.execute binary) with
  | .refused cause => throw (.programNotStarted binary cause)
  | .exited status _ => return status

/-- Compiles a C file and runs the binary. -/
def compileAndExecute
    (source : String)
    (binary : String)
    (compiler : Option String)
    (flags : List String) :
    Action Int := do
  let _ ← compile source binary compiler flags
  execute binary

/-- Compiles a C file to a temporary binary and runs it; the answer is its exit status. -/
def buildAndRun
    (source : String)
    (compiler : Option String)
    (flags : List String) :
    Action Int :=
  withScratch fun directory =>
    compileAndExecute source (directory.child "bf_program").toText compiler flags

/-- Turns a program into C that goes to a path, builds and runs it. -/
def transpileAndRun
    (program : Program)
    (options : TranspileOptions)
    (source : File.Path) :
    Action Int := do
  let _ ← Session.transpile program options (some source)
  let session ← get
  buildAndRun source.toText (some (options.resolvedCompiler session.toolchain.preferred))
    options.flags

/--
Turns a program into C, builds and runs it.  The C source goes to the given
path, or else to a temporary file.
-/
def buildAndRunProgram
    (program : Program)
    (options : TranspileOptions)
    (path : Option File.Path) :
    Action Int :=
  withScratch fun directory =>
    transpileAndRun program options (path.getD (directory.child "tmp_bf_program.c"))

/-- Loads a program from a source, builds and runs it. -/
def buildAndRunSource
    (source : Source)
    (options : TranspileOptions)
    (path : Option File.Path) :
    Action Int := do
  let program ← Session.loadSource source
  buildAndRunProgram program options path

end Build

end Brainfuck
