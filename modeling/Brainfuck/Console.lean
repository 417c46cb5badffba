import Brainfuck.SystemError

namespace Brainfuck

/-!
# Consoles

A console is what a running program talks to.  It has a state of its own, so
that one definition of execution serves every source of input and every sink
of output, failing ones included.
-/

/-- The answer to one request for input. -/
inductive Reading where
  | number (value : Int)
  | endOfInput
  | failure (cause : SystemError)
  deriving Repr, DecidableEq

/-- How a state `σ` answers requests for input and takes output. -/
structure Console (σ : Type) where
  read : σ → Reading × σ
  write : UInt8 → σ → Except SystemError Unit × σ

end Brainfuck
