import StackWalk.Word

/-!
# Unsigned decimal numbers

The grammar of an unsigned number is an optional plus sign and at least one ASCII digit.
Leading zeros are allowed in any number, and the value has to fit in a word.
-/

set_option autoImplicit false

namespace StackWalk.Text

/-- Value of a list of decimal digits, the most significant one first. -/
def digitsValue (digits : List Char) : Nat :=
  digits.foldl (fun n c => 10 * n + (c.toNat - '0'.toNat)) 0

/-- The digits of a number, without the plus sign that may precede them. -/
def withoutPlus : List Char → List Char
  | '+' :: rest => rest
  | s => s

/-- The word that an unsigned decimal number denotes. -/
def unsigned? (s : List Char) : Option Word :=
  let digits := withoutPlus s
  if digits ≠ [] ∧ digits.all Char.isDigit then Word.ofNat? (digitsValue digits) else none

/-- Exactly the texts of the grammar with a value below `2 ^ 64` denote a word. -/
theorem unsigned?_eq_some_iff {s : List Char} {w : Word} :
    unsigned? s = some w ↔
      withoutPlus s ≠ [] ∧ (withoutPlus s).all Char.isDigit = true ∧
        w.toNat = digitsValue (withoutPlus s) := by
  rw [unsigned?]
  by_cases h : withoutPlus s ≠ [] ∧ (withoutPlus s).all Char.isDigit = true
  · simp only [h, and_self, ↓reduceIte, Word.ofNat?_eq_some_iff, ne_eq, not_false_eq_true,
      true_and]
  · simp only [h, ↓reduceIte, reduceCtorEq, false_iff]
    exact fun e => h ⟨e.1, e.2.1⟩

end StackWalk.Text
