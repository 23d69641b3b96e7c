import Mathlib.Data.List.DropRight
import Mathlib.Data.Nat.Digits.Defs
import StackWalk.Text.Blank
import StackWalk.Text.Unsigned

/-!
# Trimmed texts and numerals

What trimming does and which texts write a number is said here without the functions that do it.
A text is trimmed to the one part of it that has only blank characters around it and none at its
own ends (`trimBlank_eq_iff`). A numeral is an optional plus sign and at least one decimal digit,
and its number is the sum of the digits at their places. The texts that denote a word are exactly
the numerals of numbers below `2 ^ 64` (`unsigned?_eq_some_iff_isNumeral`), with any number of
leading zeros.
-/

set_option autoImplicit false

namespace StackWalk.Text

variable {s t : List Char} {n : Nat} {w : Word}

/-! ## Trimmed texts -/

/-- `t` is what remains of `s` without the blank characters at both ends. -/
structure IsTrimmed (s t : List Char) : Prop where
  around : ∃ front back, s = front ++ t ++ back ∧ (∀ c ∈ front, isBlank c = true) ∧
    ∀ c ∈ back, isBlank c = true
  first : ∀ c ∈ t.head?, isBlank c = false
  last : ∀ c ∈ t.getLast?, isBlank c = false

theorem trimBlank_eq_rdropWhile (s : List Char) :
    trimBlank s = (s.dropWhile isBlank).rdropWhile isBlank := rfl

theorem not_isBlank_of_head?_dropWhile {c : Char}
    (h : c ∈ (s.dropWhile isBlank).head?) : isBlank c = false := by
  have front := List.head?_dropWhile_not isBlank s
  rw [Option.mem_def.1 h] at front
  exact front

/-- Trimming cuts off blank characters only, and all of them. -/
theorem isTrimmed_trimBlank (s : List Char) : IsTrimmed s (trimBlank s) := by
  have parted : (s.dropWhile isBlank).rdropWhile isBlank ++
      (s.dropWhile isBlank).rtakeWhile isBlank = s.dropWhile isBlank :=
    List.rdropWhile_append_rtakeWhile
  rw [trimBlank_eq_rdropWhile]
  constructor
  case around =>
    refine ⟨s.takeWhile isBlank, (s.dropWhile isBlank).rtakeWhile isBlank, ?_, ?_, ?_⟩
    · rw [List.append_assoc, parted, List.takeWhile_append_dropWhile]
    · exact fun c hc => List.mem_takeWhile_imp hc
    · exact fun c hc => List.mem_rtakeWhile_imp hc
  case first =>
    -- what is not cut off at the end begins as the text does behind its blank beginning
    intro c hc
    refine not_isBlank_of_head?_dropWhile (s := s) ?_
    rw [← parted, List.head?_append, Option.mem_def.1 hc, Option.some_or]
    rfl
  case last =>
    intro c hc
    rw [List.rdropWhile, List.getLast?_reverse] at hc
    exact not_isBlank_of_head?_dropWhile hc

/-- There is no other way to trim a text. -/
theorem IsTrimmed.trimBlank_eq (h : IsTrimmed s t) : trimBlank s = t := by
  obtain ⟨⟨front, back, rfl, hfront, hback⟩, first, last⟩ := h
  rw [trimBlank_eq_rdropWhile, List.append_assoc, List.dropWhile_append_of_pos hfront]
  cases t with
  | nil => rw [List.nil_append, List.dropWhile_eq_nil_iff.2 hback, List.rdropWhile_nil]
  | cons c t =>
      have begins : ¬ isBlank c = true := Bool.not_eq_true _ ▸ first c rfl
      have ends : (c :: t).rdropWhile isBlank = c :: t := by
        rw [List.rdropWhile_eq_self_iff]
        intro nonempty
        rw [last _ (List.getLast?_eq_some_getLast nonempty)]
        decide
      rw [List.cons_append, List.dropWhile_cons_of_neg begins, ← List.cons_append,
        List.rdropWhile, List.reverse_append,
        List.dropWhile_append_of_pos (by simpa using hback)]
      exact ends

/-- A text has one trimmed part, and trimming finds it. -/
theorem trimBlank_eq_iff : trimBlank s = t ↔ IsTrimmed s t :=
  ⟨fun h => h ▸ isTrimmed_trimBlank s, IsTrimmed.trimBlank_eq⟩

/-- What is said of the trimmed part of a text is said of what trimming finds. -/
theorem exists_isTrimmed_iff {P : List Char → Prop} :
    (∃ t, IsTrimmed s t ∧ P t) ↔ P (trimBlank s) := by
  simp only [← trimBlank_eq_iff, exists_eq_left']

/-! ## Numerals -/

/-- The number that decimal digits denote, the most significant one first: the sum of the digits,
each times the power of ten of its place. -/
def placeValue (digits : List Char) : Nat :=
  Nat.ofDigits 10 (digits.reverse.map fun c => c.toNat - '0'.toNat)

/-- The text writes a number. -/
inductive IsNumeral : List Char → Nat → Prop where
  | unsigned {digits : List Char} (nonempty : digits ≠ [])
      (decimal : ∀ c ∈ digits, c.isDigit = true) : IsNumeral digits (placeValue digits)
  | signed {digits : List Char} (nonempty : digits ≠ [])
      (decimal : ∀ c ∈ digits, c.isDigit = true) : IsNumeral ('+' :: digits) (placeValue digits)

theorem digitsValue_eq_placeValue (digits : List Char) :
    digitsValue digits = placeValue digits := by
  rw [digitsValue, placeValue, Nat.ofDigits_eq_foldr, List.foldr_map, List.foldr_reverse]
  congr
  funext n c
  simp [Nat.add_comm]

theorem withoutPlus_of_isDigit (decimal : ∀ c ∈ s, c.isDigit = true) : withoutPlus s = s := by
  unfold withoutPlus
  split
  · exact absurd (decimal '+' (by simp)) (by decide)
  · rfl

theorem eq_withoutPlus_or (s : List Char) : s = withoutPlus s ∨ s = '+' :: withoutPlus s := by
  unfold withoutPlus
  split
  · exact Or.inr rfl
  · exact Or.inl rfl

theorem isNumeral_iff :
    IsNumeral s n ↔
      withoutPlus s ≠ [] ∧ (withoutPlus s).all Char.isDigit = true ∧
        n = digitsValue (withoutPlus s) := by
  constructor
  · intro h
    cases h with
    | unsigned nonempty decimal =>
        rw [withoutPlus_of_isDigit decimal]
        exact ⟨nonempty, List.all_eq_true.2 decimal, (digitsValue_eq_placeValue s).symm⟩
    | @signed digits nonempty decimal =>
        exact ⟨nonempty, List.all_eq_true.2 decimal, (digitsValue_eq_placeValue digits).symm⟩
  · rintro ⟨nonempty, decimal, rfl⟩
    rw [digitsValue_eq_placeValue]
    have form := eq_withoutPlus_or s
    generalize withoutPlus s = digits at nonempty decimal form
    rcases form with rfl | rfl
    · exact .unsigned nonempty (List.all_eq_true.1 decimal)
    · exact .signed nonempty (List.all_eq_true.1 decimal)

/-- Exactly the numerals of numbers below `2 ^ 64` denote a word. -/
theorem unsigned?_eq_some_iff_isNumeral : unsigned? s = some w ↔ IsNumeral s w.toNat := by
  rw [unsigned?_eq_some_iff, isNumeral_iff]

end StackWalk.Text
