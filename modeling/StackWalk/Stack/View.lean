import StackWalk.Stack.Bounds
import StackWalk.Stack.Snapshot

/-!
# Bounded view of a stack

All frame operations reach stack memory through a view: a snapshot together with the
bounds of the thread's stack. Accessible are the words of the snapshot that lie within
the bounds; a read of any other address answers `none`, and a write is refused
(`read?_eq_none_of_not_contains`, `write?_eq_none_of_not_contains`).

A view exists only for a snapshot whose extent fits in the address space, so that no
access through it can overflow.
-/

set_option autoImplicit false

namespace StackWalk

/-- A thread's stack memory, bounded to its stack. -/
structure StackView where
  memory : Snapshot
  bounds : StackBounds
  fits : memory.low.toNat + memory.block.byteSize < 0x10000000000000000

namespace StackView

/-- View of `memory` as the stack described by `bounds`. -/
def ofSnapshot (memory : Snapshot) (bounds : StackBounds) : Except Violation StackView :=
  if h : memory.low.toNat + memory.block.byteSize < 0x10000000000000000 then
    .ok ⟨memory, bounds, h⟩
  else .error .addressOverflow

/-- One past the highest address of the memory. -/
def memoryHigh (v : StackView) : Word :=
  UInt64.ofNatLT (v.memory.low.toNat + v.memory.block.byteSize) v.fits

/-- Lowest accessible address. -/
def low (v : StackView) : Word := max v.memory.low v.bounds.floor

/-- One past the highest accessible address. -/
def high (v : StackView) : Word := min v.memoryHigh v.bounds.base

/-- A whole word at `a` is accessible. -/
def contains (v : StackView) (a : Word) : Bool :=
  a.isAligned && v.low ≤ a && a.toNat + wordBytes ≤ v.high.toNat

/-- The word stored at `a`. -/
def read? (v : StackView) (a : Word) : Option Word :=
  if v.contains a then v.memory.block.read? (v.memory.offsetOf a) else none

/-- The view after storing `value` at `a`. -/
def write? (v : StackView) (a value : Word) : Option StackView :=
  if v.contains a then
    (v.memory.block.index? (v.memory.offsetOf a)).map fun i =>
      { v with
        memory := { v.memory with block := v.memory.block.set i value }
        fits := by simpa using v.fits }
  else none

/-- The address `k` words away from `a`, if the word there is accessible. -/
def addressAt? (v : StackView) (a : Word) (k : Int) : Option Word :=
  (a.offset? k).filter v.contains

/-- The word stored `k` words away from `a`. -/
def readAt? (v : StackView) (a : Word) (k : Int) : Option Word := (a.offset? k).bind v.read?

/-- The view after storing `value` at the word `k` words away from `a`. -/
def writeAt? (v : StackView) (a : Word) (k : Int) (value : Word) : Option StackView :=
  (a.offset? k).bind (v.write? · value)

/-- The view after storing `value` at the word `k` words away from `a`; the view itself if
that word is not accessible. -/
def putAt (v : StackView) (a : Word) (k : Int) (value : Word) : StackView :=
  (v.writeAt? a k value).getD v

/-- Text of a view: its accessible range. -/
def text (v : StackView) : String :=
  "StackCursor \x7b low: " ++ v.low.hex ++ ", high: " ++ v.high.hex ++ " \x7d"

theorem read?_eq_none_of_not_contains {v : StackView} {a : Word} (h : v.contains a = false) :
    v.read? a = none := by
  simp [read?, h]

theorem write?_eq_none_of_not_contains {v : StackView} {a value : Word}
    (h : v.contains a = false) : v.write? a value = none := by
  simp [write?, h]

/-- Writing changes neither the bounds nor the start of the memory. -/
theorem bounds_of_write? {v w : StackView} {a value : Word} (h : v.write? a value = some w) :
    w.bounds = v.bounds ∧ w.memory.low = v.memory.low := by
  rw [write?] at h
  split at h
  · obtain ⟨i, _, rfl⟩ := Option.map_eq_some_iff.1 h
    exact ⟨rfl, rfl⟩
  · simp at h

end StackView

end StackWalk
