import Brainfuck.Engine

namespace Brainfuck

/-!
# Options

The settings for running a program and for turning it into C.  They are
checked when they are put together.
-/

/-- How a program is run. -/
structure RunOptions where
  tapeSize : Nat
  batched : Bool
  batchSteps : Nat
  deriving Repr, DecidableEq

/-- Run options; the tape needs a cell and a batch needs a step. -/
def RunOptions.create
    (tapeSize : Int)
    (batched : Bool)
    (batchSteps : Int) :
    Outcome RunOptions := do
  Engine.checkTapeSize tapeSize
  Engine.checkBatchSteps batchSteps
  return ⟨tapeSize.toNat, batched, batchSteps.toNat⟩

/-- The compiler that is used when none is named anywhere. -/
def lastResortCompiler : String :=
  "cc"

/-- The flags that are passed to the compiler when nothing else is asked for. -/
def defaultFlags : List String :=
  ["-O3"]

/-- The first choice if it is named, or else the second; an empty name is none. -/
def namedOr
    (choice : Option String)
    (otherwise : String) :
    String :=
  match choice with
  | some name => if name = "" then otherwise else name
  | none => otherwise

/-- The compiler to use when no option names one. -/
def defaultCompiler (preferred : Option String) : String :=
  namedOr preferred lastResortCompiler

/-- How a program is turned into C and compiled. -/
structure TranspileOptions where
  tapeSize : Nat
  compiler : Option String
  flags : List String
  deriving Repr, DecidableEq

/-- Transpile options; the tape needs a cell. -/
def TranspileOptions.create
    (tapeSize : Int)
    (compiler : Option String)
    (flags : List String) :
    Outcome TranspileOptions := do
  Engine.checkTapeSize tapeSize
  return ⟨tapeSize.toNat, compiler, flags⟩

/-- The compiler that the options ask for, given the environment's preference. -/
def TranspileOptions.resolvedCompiler
    (options : TranspileOptions)
    (preferred : Option String) :
    String :=
  namedOr options.compiler (defaultCompiler preferred)

end Brainfuck
