import Brainfuck.Excerpt

namespace Brainfuck.Excerpt

/-!
# What excerpts point at

An excerpt cuts a text into what is left of a window around an address, the window,
and what is right of it.  Dots stand for the outer parts unless they are empty, and
the caret is moved by as many columns as the dots take and the window starts later,
so that it stays below the character at the address.
-/

/-- The dots in place of characters that are cut off. -/
def dots (cut : List Char) : List Char :=
  if cut = [] then [] else ellipsis

/--
Whether two lines show what is around an address of a text, up to a number of
characters on either side, and point at the character at the address.
-/
structure Points
    (text : List Char)
    (address : Int)
    (context : Int)
    (above : List Char)
    (below : List Char)
    (culprit : Char) :
    Prop where
  /-- Neither line is broken. -/
  unbroken : '\n' ∉ above ∧ '\n' ∉ below
  /-- The upper line shows the window, and dots exactly where characters are cut off. -/
  window : ∃ left kept right,
    text = left ++ kept ++ right ∧
      (left.length : Int) = max 0 (address - context) ∧
      ((left ++ kept).length : Int) = min (text.length : Int) (address + context + 1) ∧
      above = [' ', ' '] ++ dots left ++ kept ++ dots right
  /-- The caret of the lower line is below the character at the address. -/
  caret : ∃ column, below = List.replicate column ' ' ++ ['^'] ∧ above[column]? = some culprit
  /-- The character is the one at the address. -/
  culprit : text[address.toNat]? = some culprit

variable
  {text : List Char}
  {address context : Int}

theorem slice_of_nonnegative
    {start : Nat}
    {stop : Int}
    (nonnegative : 0 ≤ stop) :
    slice text start stop = (text.take stop.toNat).drop start := by
  unfold slice
  rw [if_neg (Int.not_lt.mpr nonnegative)]

/-- A slice is what is between what is in front of it and what is behind it. -/
theorem take_append_slice_append_drop
    {start : Nat}
    {stop : Int}
    (ordered : (start : Int) ≤ stop) :
    text.take start ++ slice text start stop ++ text.drop stop.toNat = text := by
  have within : start ≤ stop.toNat := by omega
  have front : text.take start = (text.take stop.toNat).take start := by
    rw [List.take_take, Nat.min_eq_left within]
  rw [slice_of_nonnegative (by omega), front, List.take_append_drop, List.take_append_drop]

theorem getElem?_slice
    {start index : Nat}
    {stop : Int}
    (inside : ((start + index : Nat) : Int) < stop) :
    (slice text start stop)[index]? = text[start + index]? := by
  rw [slice_of_nonnegative (by omega), List.getElem?_drop, List.getElem?_take_of_lt (by omega)]

theorem first_le_address
    (address : Int)
    (positive : 0 ≤ context) :
    (first address context : Int) ≤ max 0 address := by
  unfold first
  omega

theorem address_lt_stop
    (inside : address < text.length)
    (positive : 0 ≤ context) :
    address < stop text address context := by
  unfold stop
  omega

theorem leading_eq_dots
    (nonnegative : 0 ≤ address)
    (inside : address < text.length) :
    leading address context = dots (text.take (first address context)) := by
  have filled : text ≠ [] := by
    rintro rfl
    exact absurd inside (Int.not_lt.mpr nonnegative)
  unfold leading dots
  by_cases cut : 0 < first address context
  · have shown : ¬ text.take (first address context) = [] := by
      rw [List.take_eq_nil_iff]
      rintro (whole | empty)
      · omega
      · exact filled empty
    rw [if_pos cut, if_neg shown]
  · have whole : text.take (first address context) = [] := by
      rw [List.take_eq_nil_iff]
      exact .inl (Nat.eq_zero_of_not_pos cut)
    rw [if_neg cut, if_pos whole]

theorem trailing_eq_dots (positive : 0 ≤ stop text address context) :
    trailing text address context = dots (text.drop (stop text address context).toNat) := by
  unfold trailing dots
  by_cases cut : stop text address context < text.length
  · have shown : ¬ text.drop (stop text address context).toNat = [] := by
      rw [List.drop_eq_nil_iff]
      omega
    rw [if_pos cut, if_neg shown]
  · have whole : text.drop (stop text address context).toNat = [] := by
      rw [List.drop_eq_nil_iff]
      omega
    rw [if_neg cut, if_pos whole]

/-- The column of an address in a line, which starts with dots instead of what is cut off. -/
def column
    (address : Int)
    (context : Int) :
    Nat :=
  (leading address context).length + (address.toNat - first address context)

/-- The line with the commands has the character at the address in its column. -/
theorem getElem?_commands
    (nonnegative : 0 ≤ address)
    (inside : address < text.length)
    (positive : 0 ≤ context) :
    (commands text address context)[column address context]? = text[address.toNat]? := by
  have starts := first_le_address address positive
  have stops := address_lt_stop inside positive
  -- The window starts as far in front of the address as the column is behind the dots.
  have split :
      first address context + (address.toNat - first address context) = address.toNat := by
    omega
  have within :
      ((first address context + (address.toNat - first address context) : Nat) : Int) <
        stop text address context := by
    omega
  have shown :
      (slice text (first address context) (stop text address context))[
          address.toNat - first address context]? =
        text[address.toNat]? := by
    rw [getElem?_slice within, split]
  have here : text[address.toNat]? = some text[address.toNat] :=
    List.getElem?_eq_getElem (by omega)
  rw [here] at shown ⊢
  unfold commands column
  rw [List.append_assoc, List.getElem?_append_right (Nat.le_add_right _ _),
    Nat.add_sub_cancel_left, List.getElem?_append_left (List.getElem?_eq_some_iff.mp shown).1]
  exact shown

/-- The caret is in the column of the address. -/
theorem caret_eq
    (nonnegative : 0 ≤ address)
    (positive : 0 ≤ context) :
    caret address context = List.replicate (column address context) ' ' ++ ['^'] := by
  have starts := first_le_address address positive
  have same :
      ((leading address context).length + address - first address context).toNat =
        column address context := by
    unfold column
    omega
  unfold caret
  rw [same]

theorem unbroken_commands (unbroken : '\n' ∉ text) :
    '\n' ∉ commands text address context := by
  have window : '\n' ∉ slice text (first address context) (stop text address context) := by
    intro member
    exact unbroken (List.mem_of_mem_take (List.mem_of_mem_drop member))
  have front : '\n' ∉ leading address context := by
    unfold leading
    split <;> decide
  have behind : '\n' ∉ trailing text address context := by
    unfold trailing
    split <;> decide
  unfold commands
  simp only [List.mem_append, front, window, behind, or_self, not_false_eq_true]

/-- The two lines of an excerpt point at the character at the address. -/
theorem exists_points
    {source : String}
    (unbroken : '\n' ∉ source.toList)
    (nonnegative : 0 ≤ address)
    (inside : address < source.length)
    (positive : 0 ≤ context) :
    ∃ above below culprit,
      excerpt source address context = String.ofList (above ++ '\n' :: below) ∧
        Points source.toList address context above below culprit := by
  rw [← String.length_toList] at inside
  have starts := first_le_address address positive
  have stops := address_lt_stop inside positive
  have lines := caret_eq nonnegative positive
  refine ⟨' ' :: ' ' :: commands source.toList address context,
    List.replicate (column address context + 2) ' ' ++ ['^'],
    source.toList[address.toNat], ?_, ?_⟩
  · unfold excerpt
    rw [lines]
    rfl
  constructor
  case unbroken =>
    constructor
    · simp [unbroken_commands unbroken]
    · simp
  case window =>
    refine ⟨source.toList.take (first address context),
      slice source.toList (first address context) (stop source.toList address context),
      source.toList.drop (stop source.toList address context).toNat, ?_, ?_, ?_, ?_⟩
    · exact (take_append_slice_append_drop (by omega)).symm
    · rw [List.length_take]
      unfold first
      omega
    · rw [slice_of_nonnegative (by omega), List.length_append, List.length_take, List.length_drop,
        List.length_take]
      unfold stop at stops ⊢
      omega
    · rw [← leading_eq_dots nonnegative inside, ← trailing_eq_dots (by omega)]
      rfl
  case caret =>
    refine ⟨column address context + 2, rfl, ?_⟩
    rw [List.getElem?_cons_succ, List.getElem?_cons_succ,
      getElem?_commands nonnegative inside positive]
    exact List.getElem?_eq_getElem _
  case culprit => exact List.getElem?_eq_getElem _

/-- Dots on both sides, and a caret below the bracket in the middle. -/
example :
    excerpt "++++++++++++++++++++]++++++++++++++++++++" 20 16 =
      "  ...++++++++++++++++]++++++++++++++++...\n                     ^" := by
  decide

end Brainfuck.Excerpt
