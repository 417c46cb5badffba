import Brainfuck.Memory
import Brainfuck.Text.Integer
import Mathlib.Data.Nat.Digits.Defs

namespace Brainfuck.Text

/-!
# Numerals of limited length

The numbers that can be written are those whose numeral is not too long.  Sizes are
among them, and so is every number that was read.
-/

/-- Digits behind a number make it smaller than the next number with as many zeros behind it. -/
theorem foldl_digits_lt
    {digits : List Nat}
    (decimal : ∀ digit ∈ digits, digit < 10)
    (front : Nat) :
    digits.foldl (fun number digit => 10 * number + digit) front <
      (front + 1) * 10 ^ digits.length := by
  induction digits generalizing front with
  | nil =>
      simp
  | cons digit rest inductionHypothesis =>
      have small := decimal digit List.mem_cons_self
      have later := inductionHypothesis
        (fun other member => decimal other (List.mem_cons_of_mem digit member))
        (10 * front + digit)
      calc (digit :: rest).foldl (fun number digit => 10 * number + digit) front
          < (10 * front + digit + 1) * 10 ^ rest.length := later
        _ ≤ ((front + 1) * 10) * 10 ^ rest.length := Nat.mul_le_mul_right _ (by omega)
        _ = (front + 1) * 10 ^ (rest.length + 1) := by rw [Nat.pow_succ']; exact Nat.mul_assoc _ _ _

theorem numberOfDigits_lt
    {digits : List Nat}
    (decimal : ∀ digit ∈ digits, digit < 10) :
    numberOfDigits digits < 10 ^ digits.length := by
  have bound := foldl_digits_lt decimal 0
  rwa [Nat.zero_add, Nat.one_mul] at bound

/-- A number can be written if it is below the first one with a digit too many. -/
theorem hasNumeral_iff (number : Nat) :
    hasNumeral number = true ↔ number < 10 ^ maxNumeralDigits := by
  unfold hasNumeral
  rw [decide_eq_true_eq]
  constructor
  · intro short
    let values := (Nat.toDigits 10 number).map fun digit => digit.toNat - '0'.toNat
    have decimal : ∀ value ∈ values, value < 10 := by
      intro value member
      obtain ⟨digit, spelled, rfl⟩ := List.mem_map.mp member
      have ascii := Nat.isDigit_of_mem_toDigits (by decide) (by decide) spelled
      have last := (Char.isDigit_iff_toNat.mp ascii).2
      change digit.toNat ≤ 57 at last
      change digit.toNat - 48 < 10
      omega
    have read : numberOfDigits values = number := by
      unfold numberOfDigits
      rw [List.foldl_map, ← Nat.ofDigitChars_eq_foldl, Nat.ofDigitChars_ten_toDigits]
    have length : values.length = (toString number).length := by
      rw [List.length_map, Nat.toString_eq_ofList_toDigits, String.length_ofList]
    have bound := numberOfDigits_lt decimal
    rw [read, length] at bound
    exact Nat.lt_of_lt_of_le bound (Nat.pow_le_pow_right (by decide) short)
  · exact Nat.repr_length number maxNumeralDigits (by decide)

/-- The smallest number that cannot be written. -/
theorem hasNumeral_pow : hasNumeral (10 ^ maxNumeralDigits) = false := by
  rw [Bool.eq_false_iff, ne_eq, hasNumeral_iff]
  exact Nat.lt_irrefl _

theorem hasNumeral_of_lt_pow
    {number digits : Nat}
    (short : digits ≤ maxNumeralDigits)
    (bound : number < 10 ^ digits) :
    hasNumeral number = true :=
  (hasNumeral_iff number).mpr
    (Nat.lt_of_lt_of_le bound (Nat.pow_le_pow_right (by decide) short))

/-- Sizes can be written. -/
theorem hasNumeral_of_isSize
    {cells : Nat}
    (size : isSize cells = true) :
    hasNumeral cells = true := by
  have below : cells < 10 ^ 19 :=
    Nat.lt_of_lt_of_le (of_decide_eq_true size) (by decide)
  exact hasNumeral_of_lt_pow (by decide) below

theorem decimalValue?_lt
    {character : Char}
    {value : Nat}
    (decimal : decimalValue? character = some value) :
    value < 10 := by
  unfold decimalValue? at decimal
  obtain ⟨first, found, rfl⟩ := Option.map_eq_some_iff.mp decimal
  have within := List.find?_some found
  simp only [Bool.and_eq_true, decide_eq_true_eq] at within
  omega

theorem digitValues?_lt
    {characters : List Char}
    {digits : List Nat}
    (spelled : digitValues? characters = some digits) :
    ∀ digit ∈ digits, digit < 10 := by
  have extended
      {first : Char}
      {rest : List Char}
      (later : ∀ {digits}, digitValues? rest = some digits → ∀ digit ∈ digits, digit < 10)
      {digits : List Nat}
      (spelled : (do
        let digit ← decimalValue? first
        let digits ← digitValues? rest
        some (digit :: digits)) = some digits) :
      ∀ digit ∈ digits, digit < 10 := by
    obtain ⟨value, decimal, spelledRest⟩ := Option.bind_eq_some_iff.mp spelled
    obtain ⟨values, spelledValues, same⟩ := Option.bind_eq_some_iff.mp spelledRest
    cases same
    intro digit member
    rcases List.mem_cons.mp member with rfl | behind
    · exact decimalValue?_lt decimal
    · exact later spelledValues digit behind
  induction characters using digitValues?.induct generalizing digits with
  | case1 =>
      cases spelled
  | case2 last =>
      obtain ⟨value, decimal, rfl⟩ := Option.map_eq_some_iff.mp spelled
      intro digit member
      cases List.mem_singleton.mp member
      exact decimalValue?_lt decimal
  | case3 first rest inductionHypothesis =>
      exact extended inductionHypothesis spelled
  | case4 first rest nonempty unparted inductionHypothesis =>
      rw [digitValues?] at spelled
      · exact extended inductionHypothesis spelled
      · exact nonempty
      · exact unparted

/-- A number that was read can be written again. -/
theorem hasNumeral_of_readNatural?
    {characters : List Char}
    {number : Nat}
    (read : readNatural? characters = some number) :
    hasNumeral number = true := by
  simp only [readNatural?, Option.bind_eq_bind, Option.bind_eq_some_iff] at read
  obtain ⟨digits, spelled, fits⟩ := read
  split at fits
  next short =>
    cases fits
    exact hasNumeral_of_lt_pow short (numberOfDigits_lt (digitValues?_lt spelled))
  next =>
    cases fits

theorem hasNumeral_of_readInteger?
    {text : String}
    {number : Int}
    (read : readInteger? text = some number) :
    hasNumeral number.natAbs = true := by
  have unsigned
      {characters : List Char}
      {value : Int}
      (natural : (do let read ← readNatural? characters; pure (read : Int)) = some value) :
      hasNumeral value.natAbs = true := by
    obtain ⟨magnitude, spelled, same⟩ := Option.bind_eq_some_iff.mp natural
    cases same
    exact hasNumeral_of_readNatural? spelled
  unfold readInteger? at read
  split at read <;> obtain ⟨value, natural, rfl⟩ := Option.map_eq_some_iff.mp read
  · rw [Int.natAbs_neg]
    exact unsigned natural
  · exact unsigned natural
  · exact unsigned natural

end Brainfuck.Text
