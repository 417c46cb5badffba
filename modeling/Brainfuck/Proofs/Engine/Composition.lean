import Brainfuck.Console.Output
import Brainfuck.Proofs.Engine.Iteration

namespace Brainfuck.Engine

/-!
# Composition

What a program does follows from what its parts do.  Programs whose loops are
resolved may be put one behind the other, or into a loop; the loops of the
result are then resolved too, and it does what its parts do in sequence, or what
its body does again and again.
-/

variable {σ : Type}

/-- What programs do that are put together from two others, each with a table of its own. -/
structure Composes
    (engine : Engine)
    (front back : List Opcode)
    (frontTable backTable : JumpTable)
    (console : Console σ) :
    Prop where
  /-- One program behind the other is their sequence. -/
  sequence : ∃ table source,
    (Program.ofOpcodes (front ++ back)).resolveLoops = .ok table ∧
      (Program.ofOpcodes (front ++ back)).toSource = .ok source ∧
      IsSequence (engine.holding front frontTable) (engine.holding back backTable)
        (engine.holding (front ++ back) table) source console
  /-- A program in brackets is its iteration. -/
  iteration : ∃ table source,
    (Program.ofOpcodes (loopAround front)).resolveLoops = .ok table ∧
      (Program.ofOpcodes (loopAround front)).toSource = .ok source ∧
      IsIteration (engine.holding front frontTable) (engine.holding (loopAround front) table)
        source console

end Brainfuck.Engine
