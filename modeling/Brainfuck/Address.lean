namespace Brainfuck

/-!
# Addresses

Addresses are integers.  Those from zero on count from the start of a sequence,
and negative ones count from its end, so that `-1` is the last element.
-/

/-- The element of a sequence at an address, if the sequence has that address. -/
def elementAt?
    {α : Type}
    (sequence : Array α)
    (address : Int) :
    Option α :=
  match address with
  | .ofNat offset => sequence[offset]?
  | .negSucc offset =>
      if offset < sequence.size then sequence[sequence.size - 1 - offset]? else none

/-- An address from zero on counts from the start. -/
@[simp]
theorem elementAt?_natCast
    {α : Type}
    (sequence : Array α)
    (offset : Nat) :
    elementAt? sequence (offset : Int) = sequence[offset]? :=
  rfl

end Brainfuck
