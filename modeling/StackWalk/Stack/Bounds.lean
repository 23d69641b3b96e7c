import StackWalk.Word

/-!
# Stack bounds of a thread

Stacks grow down. A thread's stack runs from its `floor`, the lowest address, up to
its `base`, which is exclusive. The lowest `guardBytes` of it are guard pages in
which no valid frame lives.
-/

set_option autoImplicit false

namespace StackWalk

/-- Address range of one thread's stack. -/
structure StackBounds where
  /-- One past the highest address. -/
  base : Word
  /-- Lowest address. -/
  floor : Word
  /-- Bytes of guard zone above `floor`. -/
  guardBytes : Word
  deriving DecidableEq, Repr

namespace StackBounds

/-- Size of the stack in bytes. -/
def size (b : StackBounds) : Word := Word.saturatingSub b.base b.floor

/-- Lowest address outside the guard zone. -/
def usableFloor (b : StackBounds) : Word := Word.saturatingAdd b.floor b.guardBytes

/-- The bounds describe a stack: it is not empty and its guard zone fits in it. -/
def isValid (b : StackBounds) : Bool := b.floor < b.base && b.usableFloor ≤ b.base

/-- The address is in the stack and outside the guard zone. -/
def isUsable (b : StackBounds) (a : Word) : Bool :=
  b.isValid && (a < b.base && b.usableFloor ≤ a)

/-- The address is in the stack, guard zone included. -/
def covers (b : StackBounds) (a : Word) : Bool := a < b.base && b.floor ≤ a

/-- The bounds are valid and the address is in the stack, guard zone included. -/
def coversValid (b : StackBounds) (a : Word) : Bool := b.isValid && b.covers a

/-- The address is between `limit` and the stack base, both included. -/
def isFrom (b : StackBounds) (limit a : Word) : Bool := a ≤ b.base && limit ≤ a

/-- The address is between `limit` and the stack base, both excluded. -/
def isAbove (b : StackBounds) (limit a : Word) : Bool := a < b.base && limit < a

theorem isUsable_iff {b : StackBounds} {a : Word} :
    b.isUsable a = true ↔ b.isValid = true ∧ a < b.base ∧ b.usableFloor ≤ a := by
  simp [isUsable]

theorem isFrom_iff {b : StackBounds} {limit a : Word} :
    b.isFrom limit a = true ↔ a ≤ b.base ∧ limit ≤ a := by
  simp [isFrom]

theorem isAbove_iff {b : StackBounds} {limit a : Word} :
    b.isAbove limit a = true ↔ a < b.base ∧ limit < a := by
  simp [isAbove]

theorem coversValid_iff {b : StackBounds} {a : Word} :
    b.coversValid a = true ↔ b.isValid = true ∧ a < b.base ∧ b.floor ≤ a := by
  simp [coversValid, covers]

theorem floor_le_usableFloor (b : StackBounds) : b.floor ≤ b.usableFloor := by
  have := UInt64.toNat_lt b.floor
  rw [usableFloor, UInt64.le_iff_toNat_le, Word.toNat_saturatingAdd]
  omega

end StackBounds

end StackWalk
