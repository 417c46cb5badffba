import Brainfuck.CommandLine.Switch
import Brainfuck.Text.Quoted

namespace Brainfuck.CommandLine

/-!
# Usage

The help text, and the errors in the use of the command line.
-/

/-- How the program is called, in three lines. -/
def usageText : String :=
  "usage: bfc [-h] [-p STR] [-n TAPESIZE] [-i | -c] [-o OUTPUT] [--cc CC]\n" ++
  "           [--no-jit] [--stats] [-v]\n" ++
  "           [file]\n"

/-- The whole help text. -/
def helpText : String :=
  usageText ++
  "\n" ++
  "Brainfuck interpreter and brainfuck-to-C transpiler.\n" ++
  "\n" ++
  "positional arguments:\n" ++
  "  file                  brainfuck source file (must end in .bf)\n" ++
  "\n" ++
  "options:\n" ++
  "  -h, --help            show this help message and exit\n" ++
  "  -p STR, --parse STR   parse STR as brainfuck code\n" ++
  "  -n TAPESIZE, --tapesize TAPESIZE\n" ++
  "                        size of the tape (default: 30000)\n" ++
  "  -i, --intermediate    generate intermediate C code and stop\n" ++
  "  -c, --compile         generate C code, build it with the C compiler and run\n" ++
  "                        it\n" ++
  "  -o OUTPUT, --output OUTPUT\n" ++
  "                        path of the generated C file\n" ++
  "  --cc CC               C compiler to use (default: $CC or cc)\n" ++
  "  --no-jit              interpret without the numba JIT loop\n" ++
  "  --stats               print timings and a tape dump to stderr\n" ++
  "  -v, --verbose         debug logging\n"

/-- An error in the use of the command line. -/
inductive UsageError where
  | ambiguous (word : String) (candidates : List String)
  | valueExpected (switch : Switch)
  | valueIgnored (switch : Switch) (value : String)
  | notInteger (switch : Switch) (value : String)
  | notTogether (switch : Switch) (earlier : Switch)
  | unrecognized (words : List String)
  | tapeTooSmall (cells : Int)
  | outputNeedsMode
  | compilerNeedsCompile
  | statsWhileTranspiling
  | noJitWhileTranspiling
  deriving Repr, DecidableEq

namespace UsageError

/-- The part of an error that concerns one switch. -/
def onSwitch
    (switch : Switch)
    (problem : String) :
    String :=
  s!"argument {switch.title}: {problem}"

/-- An error in words. -/
def message : UsageError → String
  | .ambiguous word candidates =>
      s!"ambiguous option: {word} could match " ++ ", ".intercalate candidates
  | .valueExpected switch => onSwitch switch "expected one argument"
  | .valueIgnored switch value =>
      onSwitch switch s!"ignored explicit argument {Text.quoted value}"
  | .notInteger switch value => onSwitch switch s!"invalid int value: {Text.quoted value}"
  | .notTogether switch earlier =>
      onSwitch switch s!"not allowed with argument {earlier.title}"
  | .unrecognized words => "unrecognized arguments: " ++ " ".intercalate words
  | .tapeTooSmall cells => s!"tape size must be at least 1, got {cells}"
  | .outputNeedsMode => "-o/--output needs -i or -c"
  | .compilerNeedsCompile => "--cc only applies with -c"
  | .statsWhileTranspiling => "--stats only applies when interpreting"
  | .noJitWhileTranspiling => "--no-jit only applies when interpreting"

/-- What is printed for an error. -/
def report (error : UsageError) : String :=
  usageText ++ s!"bfc: error: {error.message}"

end UsageError

end Brainfuck.CommandLine
