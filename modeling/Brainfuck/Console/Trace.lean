import Brainfuck.Console

namespace Brainfuck

/-!
# Traces

A traced console behaves like the console that it wraps and records every
exchange in order, so that equal traces mean equal conversations.
-/

/-- One exchange between a running program and its console. -/
inductive Exchange where
  | read (reading : Reading)
  | write (byte : UInt8) (accepted : Bool)
  deriving Repr, DecidableEq

/-- The console that also records every exchange. -/
def Console.traced
    {σ : Type}
    (console : Console σ) :
    Console (σ × List Exchange) where
  read channel :=
    let (reading, next) := console.read channel.1
    (reading, next, channel.2 ++ [.read reading])
  write byte channel :=
    let (result, next) := console.write byte channel.1
    (result, next, channel.2 ++ [.write byte result.isOk])

end Brainfuck
