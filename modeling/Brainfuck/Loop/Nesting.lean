import Brainfuck.Program

namespace Brainfuck

/-!
# Nesting

What it means for brackets to pair up, said by counting.  The depth in front of
an address is the number of opening brackets before it less the number of
closing ones.  A loop runs from an opening bracket to the first later address
behind which the depth is what it was in front of the bracket.
-/

/-- How much deeper a word makes the nesting. -/
def nestingStep (word : Int32) : Int :=
  if word = Opcode.loopOpen.word then 1
  else if word = Opcode.loopClose.word then -1
  else 0

/-- How much deeper a sequence of words makes the nesting. -/
def nesting : List Int32 → Int
  | [] => 0
  | word :: rest => nestingStep word + nesting rest

namespace Program

/-- The nesting depth behind the first `count` words. -/
def depth
    (program : Program)
    (count : Nat) :
    Int :=
  nesting (program.words.toList.take count)

/-- Whether a program has a bracket at an address. -/
def HasBracket
    (program : Program)
    (address : Nat) :
    Prop :=
  program.opcodeAt? address = some .loopOpen ∨ program.opcodeAt? address = some .loopClose

/-- Whether the brackets at two addresses are the two ends of one loop. -/
structure IsLoop
    (program : Program)
    (first : Nat)
    (last : Nat) :
    Prop where
  opens : program.opcodeAt? first = some .loopOpen
  ordered : first < last
  closes : program.depth (last + 1) = program.depth first
  earliest : ∀ between, first < between → between < last →
    program.depth (between + 1) ≠ program.depth first

/-- Whether no prefix has more closing brackets than opening ones, and the whole has as many. -/
structure IsBalanced (program : Program) : Prop where
  nonnegative : ∀ count, count ≤ program.size → 0 ≤ program.depth count
  level : program.depth program.size = 0

/-- Whether an address is that of the first closing bracket without partner. -/
structure IsStrayClose
    (program : Program)
    (address : Nat) :
    Prop where
  inside : address < program.size
  negative : program.depth (address + 1) < 0
  earliest : ∀ count, count ≤ address → 0 ≤ program.depth count

/-- Whether all prefixes from behind an opening bracket on are deeper than zero. -/
structure StaysOpen
    (program : Program)
    (address : Nat) :
    Prop where
  opens : program.opcodeAt? address = some .loopOpen
  deep : ∀ count, address < count → count ≤ program.size → 0 < program.depth count

end Program

end Brainfuck
