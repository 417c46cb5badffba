namespace Brainfuck

/-!
# Notices

What the library reports about its own work, for debugging.  Each notice names
the part of the library that gives it.
-/

/-- A report about work that was done. -/
inductive Notice where
  | sourceLoaded (opcodes : Nat) (characters : Nat)
  | streamLoaded (opcodes : Nat) (bytes : Nat)
  | loopsResolved (loops : Nat) (opcodes : Nat)
  | batchLimit (pc : Int) (steps : Nat)
  | tapeReleased (cells : Nat)
  | codeGenerated (lines : Nat) (opcodes : Nat)
  | fileWritten (path : String)
  | commandStarted (command : String)
  deriving Repr, DecidableEq

namespace Notice

/-- The part of the library that gives a notice. -/
def origin : Notice → String
  | .sourceLoaded _ _ => "bfc.program"
  | .streamLoaded _ _ => "bfc.program"
  | .loopsResolved _ _ => "bfc.loops"
  | .batchLimit _ _ => "bfc.engine"
  | .tapeReleased _ => "bfc.engine"
  | .codeGenerated _ _ => "bfc.codegen"
  | .fileWritten _ => "bfc.codegen"
  | .commandStarted _ => "bfc.toolchain"

/-- A notice in words. -/
def text : Notice → String
  | .sourceLoaded opcodes characters =>
      s!"loaded {opcodes} opcodes from {characters} source characters"
  | .streamLoaded opcodes bytes => s!"loaded {opcodes} opcodes from a {bytes} byte stream"
  | .loopsResolved loops opcodes => s!"resolved {loops} loops in {opcodes} opcodes"
  | .batchLimit pc steps => s!"batch limit hit at pc={pc} after {steps} steps"
  | .tapeReleased cells => s!"released {cells} cell tape"
  | .codeGenerated lines opcodes => s!"generated {lines} lines of C for {opcodes} opcodes"
  | .fileWritten path => s!"wrote {path}"
  | .commandStarted command => s!"running {command}"

/-- A notice as one line of a log. -/
def line (notice : Notice) : String :=
  s!"DEBUG {notice.origin}: {notice.text}"

end Notice

end Brainfuck
