import Brainfuck.Build
import Brainfuck.CommandLine.Arguments

namespace Brainfuck.CommandLine

/-!
# The command line

A command line is parsed and checked as a whole before anything else happens.
Then the program is loaded, and it is interpreted, turned into C, or compiled
and run.  The exit status tells which stage failed.
-/

/-- The extension of program files. -/
def programExtension : String :=
  ".bf"

/-- The extension of generated files. -/
def sourceExtension : String :=
  ".c"

/-- The generated file for a program that is given on the command line. -/
def parsedSourceName : String :=
  "bf_program.c"

/-- The status after success. -/
def statusOk : Int :=
  0

/-- The status when the file is no program file. -/
def statusUsage : Int :=
  1

/-- The status when the program cannot be loaded, run or written. -/
def statusProgram : Int :=
  2

/-- The status when the toolchain fails. -/
def statusToolchain : Int :=
  3

/-- How many cells a dump shows. -/
def dumpedCells : Nat :=
  100

/-- How many cells a dump shows in a row. -/
def dumpWidth : Nat :=
  8

/-- How the program ended: by returning, by leaving early, or by an unexpected failure. -/
inductive Exit where
  | returned (status : Int)
  | left (status : Int)
  | raised (failure : Failure)
  | unfinished
  deriving Repr, DecidableEq

/-- How the program ended, whether it is verbose, and the world that it leaves. -/
structure Result where
  exit : Exit
  verbose : Bool
  session : Session

/-- The value of a switch that was given with some text. -/
def given? : Option (Given String) → Option String
  | some (.value "") => none
  | some (.value text) => some text
  | _ => none

/-- Whether the arguments ask for C source, with or without running it. -/
def Arguments.transpiles (arguments : Arguments) : Bool :=
  arguments.intermediate || arguments.compile

/-- The error in a combination of arguments, if there is one. -/
def modeError? (arguments : Arguments) : Option UsageError :=
  if (given? arguments.output).isSome && !arguments.transpiles then some .outputNeedsMode
  else if (given? arguments.compiler).isSome && !arguments.compile then
    some .compilerNeedsCompile
  else if arguments.transpiles && arguments.stats then some .statsWhileTranspiling
  else if arguments.transpiles && arguments.noJit then some .noJitWhileTranspiling
  else none

/-- Whether a file name has the extension of program files. -/
def isProgramFile (file : String) : Bool :=
  programExtension.toList.isSuffixOf file.toList

/-- The name of the generated file for a program file: its last component with another extension. -/
def sourceNameFor (file : String) : String :=
  let name := (File.Path.ofText file).name.toList
  String.ofList (name.take (name.length - programExtension.length)) ++ sourceExtension

/-- What the program is read from. -/
inductive Origin where
  | parsed (text : String)
  | file (name : String)
  deriving Repr, DecidableEq

/-- What the program is read from, if the arguments name it; text wins over a file. -/
def origin? (arguments : Arguments) : Option Origin :=
  match arguments.parse, arguments.file with
  | some (.value text), _ => some (.parsed text)
  | some .nothing, _ => some (.parsed "")
  | none, some file => some (.file file)
  | none, none => none

/-- Loads the program. -/
def load : Origin → Action Program
  | .parsed text => Session.loadSource (.text text)
  | .file name => Session.loadFile (.ofText name) Program.defaultChunkSize

/-- The path of the generated file when the program is not run. -/
def sourcePath
    (arguments : Arguments)
    (origin : Origin) :
    File.Path :=
  match given? arguments.output, origin with
  | some text, _ => .ofText text
  | none, .parsed _ => .ofText parsedSourceName
  | none, .file name => .ofText (sourceNameFor name)

/-- The path of the generated file when the program is run: none unless one was given. -/
def keptPath? (arguments : Arguments) : Outcome (Option File.Path) :=
  match arguments.output with
  | none => .ok none
  | some (.value text) => .ok (some (.ofText text))
  | some .nothing => .error .pathMissing

/-- The rows of a dump. -/
def dumpRows (tape : Array UInt8) : List (List UInt8) :=
  let cells := tape.toList.take dumpedCells
  (List.range ((cells.length + (dumpWidth - 1)) / dumpWidth)).map fun row =>
    (cells.drop (dumpWidth * row)).take dumpWidth

/-- A row of a dump as text. -/
def dumpLine (row : List UInt8) : String :=
  " ".intercalate (row.map fun cell => toString cell.toNat)

/-- Prints the time that a run took and the first cells of its tape. -/
def reportRun (machine : Machine) : Action Unit := do
  let session ← get
  Session.tell
    (s!"\n================\nExecution took {session.elapsed} ms ({machine.steps} steps)")
  (dumpRows machine.tape).forM fun row => Session.tell (dumpLine row)

/-- Interprets a program on the console of the session. -/
def interpret
    (arguments : Arguments)
    (tapeSize : Int)
    (program : Program)
    (fuel : Nat) :
    Action (Option Int) := do
  let options ←
    Session.lift (RunOptions.create tapeSize (!arguments.noJit) Engine.defaultBatchSteps)
  match ← Session.runProgram program options fuel with
  | none => return none
  | some machine =>
      if arguments.stats then reportRun machine
      return some statusOk

/-- Turns a program into C source, and builds and runs it if the arguments say so. -/
def transpile
    (arguments : Arguments)
    (tapeSize : Int)
    (origin : Origin)
    (program : Program) :
    Action Int := do
  let options ←
    Session.lift (TranspileOptions.create tapeSize (given? arguments.compiler) defaultFlags)
  if arguments.intermediate then
    let path := sourcePath arguments origin
    let _ ← Session.transpile program options (some path)
    Session.tell s!"wrote {path.toText}"
    return statusOk
  else
    let path ← Session.lift (keptPath? arguments)
    Build.buildAndRunProgram program options path

/-- The work that the arguments ask for; the answer is nothing if the fuel did not last. -/
def perform
    (arguments : Arguments)
    (tapeSize : Int)
    (origin : Origin)
    (fuel : Nat) :
    Action (Option Int) := do
  let program ← load origin
  if arguments.stats then
    let session ← get
    Session.tell s!"Loading took {session.elapsed} ms ({program.size} opcodes)"
  if arguments.transpiles then
    return some (← transpile arguments tapeSize origin program)
  else
    interpret arguments tapeSize program fuel

/-- The status for a failure that the command line reports itself. -/
def statusOf (failure : Failure) : Int :=
  if failure.isToolchain then statusToolchain else statusProgram

/-- A session with another message. -/
def say
    (session : Session)
    (text : String) :
    Session :=
  { session with journal := session.journal.push (.message text) }

/-- A session with the help text printed to its output. -/
def showHelp (session : Session) : Session :=
  { session with
    channel := { session.channel with output := session.channel.output.print helpText } }

/-- Carries out checked arguments. -/
def runOrigin
    (arguments : Arguments)
    (tapeSize : Int)
    (origin : Origin)
    (fuel : Nat)
    (session : Session) :
    Exit × Session :=
  match perform arguments tapeSize origin fuel session with
  | .ok (some status) next => (.returned status, next)
  | .ok none next => (.unfinished, next)
  | .error failure next =>
      if failure.isReported then (.returned (statusOf failure), say next failure.message)
      else (.raised failure, next)

/-- Refuses a file that is no program file, and carries out any other arguments. -/
def runNamed
    (arguments : Arguments)
    (tapeSize : Int)
    (fuel : Nat)
    (session : Session) :
    Exit × Session :=
  match origin? arguments with
  | none => (.returned statusOk, showHelp session)
  | some (.parsed text) => runOrigin arguments tapeSize (.parsed text) fuel session
  | some (.file name) =>
      if isProgramFile name then
        runOrigin arguments tapeSize (.file name) fuel session
      else
        (.returned statusUsage, say session
          s!"No .bf file provided. Please provide a file that ends in {programExtension}")

/-- Ends with an error in the use of the command line. -/
def refuse
    (error : UsageError)
    (session : Session) :
    Exit × Session :=
  (.left 2, say session error.report)

/-- Checks arguments and carries them out. -/
def runArguments
    (arguments : Arguments)
    (fuel : Nat)
    (session : Session) :
    Exit × Session :=
  match arguments.tapeSize with
  | .nothing => (.raised .numberMissing, session)
  | .value tapeSize =>
      if tapeSize < 1 then
        refuse (.tapeTooSmall tapeSize) session
      else
        match modeError? arguments with
        | some error => refuse error session
        | none => runNamed arguments tapeSize fuel session

/-- Runs the program on a command line. -/
def run
    (words : List String)
    (fuel : Nat)
    (session : Session) :
    Result :=
  match parseArguments words with
  | .error .help => ⟨.left 0, false, showHelp session⟩
  | .error (.usage error) =>
      let (exit, next) := refuse error session
      ⟨exit, false, next⟩
  | .ok arguments =>
      let (exit, next) := runArguments arguments fuel session
      ⟨exit, arguments.verbose, next⟩

/-- The paths of the files that the arguments may read or write. -/
def involvedPaths (arguments : Arguments) : List File.Path :=
  match origin? arguments with
  | none => []
  | some origin =>
      (arguments.file.toList.map File.Path.ofText) ++
        if arguments.transpiles then [sourcePath arguments origin] else []

/-- Whether the arguments ask to interpret a program that has a command for input. -/
def wantsInput
    (arguments : Arguments)
    (session : Session) :
    Bool :=
  match origin? arguments with
  | none => false
  | some origin =>
      match load origin session with
      | .ok program _ => !arguments.transpiles && 0 < program.countOpcode .input
      | .error _ _ => false

/-- A journal entry as it is shown: messages always, notices only when verbose. -/
def shownEntry
    (verbose : Bool) :
    Entry → String
  | .message text => text ++ "\n"
  | .notice notice => if verbose then notice.line ++ "\n" else ""

/-- All that goes to the error stream. -/
def Result.errorText (result : Result) : String :=
  String.join (result.session.journal.toList.map (shownEntry result.verbose))

end Brainfuck.CommandLine
