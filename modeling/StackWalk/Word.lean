/-!
# Machine words

Addresses, program counters and stack contents are all 64-bit words. This file
fixes the arithmetic on them. An operation that could leave the 64-bit range is
either partial (`checkedAdd?`, `offset?`, `below?`) or saturates at the end of the
range (`saturatingAdd`, `saturatingMul`, `saturatingSub`); none wraps around.

The `toNat` lemmas describe each operation by exact arithmetic on `Nat` and `Int`,
which is where all later reasoning takes place.
-/

set_option autoImplicit false

namespace StackWalk

/-- Machine word: an address, a program counter, or the contents of a stack slot. -/
abbrev Word := UInt64

/-- Bytes in a machine word. -/
def wordBytes : Nat := 8

namespace Word

/-- The highest word. -/
def highest : Word := 0xffffffffffffffff

/-- The word with value `n`, if `n` fits in 64 bits. -/
def ofNat? (n : Nat) : Option Word :=
  if h : n < 0x10000000000000000 then some (UInt64.ofNatLT n h) else none

/-- The word with value `n`, if `n` is between `0` and `2 ^ 64 - 1`. -/
def ofInt? (n : Int) : Option Word :=
  if 0 ≤ n then ofNat? n.toNat else none

/-- The address is a multiple of the word size. -/
def isAligned (a : Word) : Bool := a.toNat % wordBytes == 0

/-- Sum of two words, if it fits in 64 bits. -/
def checkedAdd? (a b : Word) : Option Word := ofNat? (a.toNat + b.toNat)

/-- Sum of two words, cut off at the highest word. -/
def saturatingAdd (a b : Word) : Word := (checkedAdd? a b).getD highest

/-- Product of two words, cut off at the highest word. -/
def saturatingMul (a b : Word) : Word := (ofNat? (a.toNat * b.toNat)).getD highest

/-- Difference of two words, cut off at zero. -/
def saturatingSub (a b : Word) : Word := if b ≤ a then a - b else 0

/-- The address one word below `a`. -/
def below? (a : Word) : Option Word := if 8 ≤ a then some (a - 8) else none

/-- The address `k` words away from `a`. Both the distance in bytes, as a signed
64-bit number, and the resulting address have to exist; a corrupt frame pointer
often sits at an edge of the address space. -/
def offset? (a : Word) (k : Int) : Option Word :=
  if -0x8000000000000000 ≤ 8 * k ∧ 8 * k < 0x8000000000000000 then
    ofInt? (a.toNat + 8 * k)
  else none

theorem ofNat?_eq_some_iff {n : Nat} {w : Word} : ofNat? n = some w ↔ w.toNat = n := by
  rw [ofNat?]
  split
  · next h =>
    simp only [Option.some.injEq]
    constructor
    · rintro rfl; simp
    · rintro rfl; exact UInt64.toNat_inj.1 (by simp)
  · next h =>
    simp only [reduceCtorEq, false_iff]
    rintro rfl
    exact h (UInt64.toNat_lt_size w)

theorem ofNat?_eq_none_iff {n : Nat} : ofNat? n = none ↔ 0x10000000000000000 ≤ n := by
  rw [ofNat?]
  split
  · next h => simp only [reduceCtorEq, false_iff, Nat.not_le]; exact h
  · next h => simp only [true_iff]; exact Nat.not_lt.1 h

theorem ofInt?_eq_some_iff {n : Int} {w : Word} : ofInt? n = some w ↔ (w.toNat : Int) = n := by
  rw [ofInt?]
  split
  · rw [ofNat?_eq_some_iff]; omega
  · simp only [reduceCtorEq, false_iff]; omega

theorem checkedAdd?_eq_some_iff {a b c : Word} :
    checkedAdd? a b = some c ↔ c.toNat = a.toNat + b.toNat := ofNat?_eq_some_iff

theorem toNat_highest : highest.toNat = 0xffffffffffffffff := by decide

theorem toNat_saturatingAdd (a b : Word) :
    (saturatingAdd a b).toNat = min (a.toNat + b.toNat) 0xffffffffffffffff := by
  rw [saturatingAdd]
  cases h : checkedAdd? a b with
  | none =>
    have h' := ofNat?_eq_none_iff.1 h
    simp only [Option.getD_none, toNat_highest]; omega
  | some c =>
    have h' := checkedAdd?_eq_some_iff.1 h
    have := UInt64.toNat_lt c
    simp only [Option.getD_some]; omega

theorem toNat_saturatingMul (a b : Word) :
    (saturatingMul a b).toNat = min (a.toNat * b.toNat) 0xffffffffffffffff := by
  rw [saturatingMul]
  cases h : ofNat? (a.toNat * b.toNat) with
  | none =>
    have h' := ofNat?_eq_none_iff.1 h
    simp only [Option.getD_none, toNat_highest]; omega
  | some c =>
    have h' := ofNat?_eq_some_iff.1 h
    have := UInt64.toNat_lt c
    simp only [Option.getD_some]; omega

theorem toNat_saturatingSub (a b : Word) :
    (saturatingSub a b).toNat = a.toNat - b.toNat := by
  rw [saturatingSub]
  split
  · next h => exact UInt64.toNat_sub_of_le _ _ h
  · next h =>
    have : a.toNat < b.toNat := Nat.not_le.1 fun hle => h (UInt64.le_iff_toNat_le.2 hle)
    simp; omega

theorem below?_eq_some_iff {a b : Word} : below? a = some b ↔ b.toNat + 8 = a.toNat := by
  rw [below?]
  split
  · next h =>
    have h8 : (8 : UInt64).toNat ≤ a.toNat := UInt64.le_iff_toNat_le.1 h
    have hs := UInt64.toNat_sub_of_le _ _ h
    have h8' : (8 : UInt64).toNat = 8 := rfl
    simp only [Option.some.injEq]
    constructor
    · rintro rfl; omega
    · intro hb; exact UInt64.toNat_inj.1 (by omega)
  · next h =>
    simp only [reduceCtorEq, false_iff]
    intro hb
    exact h (UInt64.le_iff_toNat_le.2 (by have : (8 : UInt64).toNat = 8 := rfl; omega))

theorem offset?_eq_some_iff {a b : Word} {k : Int} :
    offset? a k = some b ↔
      (-0x8000000000000000 ≤ 8 * k ∧ 8 * k < 0x8000000000000000) ∧
        (b.toNat : Int) = a.toNat + 8 * k := by
  rw [offset?]
  split
  · next h => rw [ofInt?_eq_some_iff]; exact ⟨fun e => ⟨h, e⟩, fun e => e.2⟩
  · next h => simp only [reduceCtorEq, false_iff]; exact fun e => h e.1

/-- The address exists if its value is that of a word. -/
theorem exists_offset? {a : Word} {k : Int}
    (distance : -0x8000000000000000 ≤ 8 * k ∧ 8 * k < 0x8000000000000000)
    (fits : 0 ≤ a.toNat + 8 * k ∧ a.toNat + 8 * k < 0x10000000000000000) :
    ∃ b, offset? a k = some b ∧ (b.toNat : Int) = a.toNat + 8 * k := by
  have small : (a.toNat + 8 * k).toNat < 0x10000000000000000 := by omega
  have value : ((UInt64.ofNatLT _ small).toNat : Int) = a.toNat + 8 * k := by
    rw [UInt64.toNat_ofNatLT]
    omega
  exact ⟨_, offset?_eq_some_iff.2 ⟨distance, value⟩, value⟩

/-- The address is that of a word between `low` and `high`. -/
theorem isWithin_iff {a low high : Word} :
    (a.isAligned && low ≤ a && a.toNat + wordBytes ≤ high.toNat) = true ↔
      a.toNat % 8 = 0 ∧ low.toNat ≤ a.toNat ∧ a.toNat + 8 ≤ high.toNat := by
  rw [Bool.and_eq_true, Bool.and_eq_true, isAligned, wordBytes, beq_iff_eq, decide_eq_true_eq,
    decide_eq_true_eq, and_assoc, UInt64.le_iff_toNat_le]

theorem ne_zero_of_lt {a b : Word} (h : a < b) : b ≠ 0 := by
  rintro rfl
  exact absurd (UInt64.lt_iff_toNat_lt.1 h) (Nat.not_lt_zero _)

theorem lt_of_offset? {a b : Word} {k : Int} (h : offset? a k = some b) (pos : 0 < k) :
    a < b := by
  have := (offset?_eq_some_iff.1 h).2
  exact UInt64.lt_iff_toNat_lt.2 (by omega)

end Word

end StackWalk
