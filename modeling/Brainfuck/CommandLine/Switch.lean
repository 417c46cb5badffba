namespace Brainfuck.CommandLine

/-!
# Switches

The options of the command line, with the names that they are given by.  A
switch either is a flag or takes a value.
-/

/-- An option of the command line. -/
inductive Switch where
  | help
  | parse
  | tapeSize
  | intermediate
  | compile
  | output
  | compiler
  | noJit
  | stats
  | verbose
  deriving Repr, DecidableEq, Inhabited

namespace Switch

/-- Every switch, in the order of the help text. -/
def all : List Switch :=
  [.help, .parse, .tapeSize, .intermediate, .compile, .output, .compiler, .noJit, .stats,
    .verbose]

/-- The names of a switch, the one-letter name first if there is one. -/
def names : Switch → List String
  | .help => ["-h", "--help"]
  | .parse => ["-p", "--parse"]
  | .tapeSize => ["-n", "--tapesize"]
  | .intermediate => ["-i", "--intermediate"]
  | .compile => ["-c", "--compile"]
  | .output => ["-o", "--output"]
  | .compiler => ["--cc"]
  | .noJit => ["--no-jit"]
  | .stats => ["--stats"]
  | .verbose => ["-v", "--verbose"]

/-- Whether a switch takes a value. -/
def takesValue : Switch → Bool
  | .parse => true
  | .tapeSize => true
  | .output => true
  | .compiler => true
  | _ => false

/-- All names of a switch, as error messages show them. -/
def title (switch : Switch) : String :=
  "/".intercalate switch.names

/-- Every name with its switch, in the order of the help text. -/
def table : List (String × Switch) :=
  all.flatMap fun switch => switch.names.map fun name => (name, switch)

/-- The switch of a name. -/
def ofName? (name : String) : Option Switch :=
  table.lookup name

/-- The switch of a one-letter name. -/
def ofLetter? (letter : Char) : Option Switch :=
  ofName? (String.ofList ['-', letter])

end Switch

end Brainfuck.CommandLine
