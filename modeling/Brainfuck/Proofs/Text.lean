namespace Brainfuck

/-!
# Texts in one line

Numerals have no line breaks in them, so that a line that shows numbers stays one line.
-/

theorem unbroken_natural (number : Nat) : '\n' ∉ (toString number).toList := by
  rw [Nat.toString_eq_ofList_toDigits, String.toList_ofList]
  intro feed
  have digit : Char.isDigit '\n' = true :=
    Nat.isDigit_of_mem_toDigits (by decide) (by decide) feed
  cases digit

theorem unbroken_integer (number : Int) : '\n' ∉ (toString number).toList := by
  cases number with
  | ofNat number =>
      exact unbroken_natural number
  | negSucc number =>
      have sign : '\n' ∉ "-".toList := by decide
      change '\n' ∉ ("-" ++ toString (number + 1)).toList
      rw [String.toList_append, List.mem_append, not_or]
      exact ⟨sign, unbroken_natural (number + 1)⟩

end Brainfuck
