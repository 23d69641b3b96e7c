import StackWalk.Failure
import StackWalk.Stack.Block

/-!
# Stack snapshots

A snapshot is an owned copy of a stack region: a block of words and the aligned
address at which it starts. Its extent ends at `low + 8 * size`. That address is
computed by every access, so a snapshot that reaches the end of the address space,
which can be made, cannot be used (`high_eq_error_iff`).
-/

set_option autoImplicit false

namespace StackWalk

/-- Copy of a stack region. -/
structure Snapshot where
  /-- Lowest address. -/
  low : Word
  /-- Contents, upwards from `low`. -/
  block : WordBlock
  low_aligned : low.toNat % 8 = 0

namespace Snapshot

/-- Snapshot with the given words, upwards from `low`. -/
def ofWords (low : Word) (words : Array Word) : Except Violation Snapshot :=
  if h : low.toNat % 8 = 0 then .ok ⟨low, ⟨words⟩, h⟩ else .error .misalignedStack

/-- Greatest number of words for which memory can be reserved. Together they take less
than half of the address space. -/
def maxWords : Nat := 0xfffffffffffffff

/-- Snapshot of `count` zero words, upwards from `low`. -/
def zeroed (low : Word) (count : Nat) : Except Violation Snapshot := do
  let m ← ofWords low #[]
  if maxWords < count then throw .tooManyWords
  return { m with block := ⟨Array.replicate count 0⟩ }

/-- Number of words. -/
def size (m : Snapshot) : Nat := m.block.size

/-- One past the highest address. -/
def high (m : Snapshot) : Except Violation Word :=
  match Word.ofNat? (m.low.toNat + m.block.byteSize) with
  | some h => .ok h
  | none => .error .addressOverflow

/-- Distance in bytes from the start of the snapshot. -/
def offsetOf (m : Snapshot) (a : Word) : Int := a.toNat - m.low.toNat

/-- The word stored at `a`, if `a` is the address of a word of the snapshot. -/
def get? (m : Snapshot) (a : Word) : Except Violation (Option Word) := do
  let _ ← m.high
  return m.block.read? (m.offsetOf a)

/-- The snapshot with `value` at `a`, unless `a` is not the address of a word of it. -/
def set? (m : Snapshot) (a value : Word) : Except Violation (Option Snapshot) := do
  let _ ← m.high
  return (m.block.write? (m.offsetOf a) value).map ({ m with block := · })

theorem high_eq_error_iff {m : Snapshot} {e : Violation} :
    m.high = .error e ↔ e = .addressOverflow ∧
      0x10000000000000000 ≤ m.low.toNat + m.block.byteSize := by
  rw [high]
  cases h : Word.ofNat? (m.low.toNat + m.block.byteSize) with
  | none =>
    have := Word.ofNat?_eq_none_iff.1 h
    simp only [Except.error.injEq]
    exact ⟨fun e => ⟨e.symm, this⟩, fun e => e.1.symm⟩
  | some w =>
    have := Word.ofNat?_eq_some_iff.1 h
    have := UInt64.toNat_lt w
    simp only [reduceCtorEq, false_iff]
    omega

end Snapshot

end StackWalk
