import StackWalk.Word

/-!
# Blocks of stack words

A block is a run of consecutive words. A word in it is named by its distance in bytes
from the start of the block, and only distances that name one whole word of the block
are accepted (`index?_eq_some_iff`).
-/

set_option autoImplicit false

namespace StackWalk

/-- A run of consecutive stack words. -/
structure WordBlock where
  words : Array Word
  deriving DecidableEq, Repr

namespace WordBlock

/-- Number of words in the block. -/
def size (b : WordBlock) : Nat := b.words.size

/-- Number of bytes in the block. -/
def byteSize (b : WordBlock) : Nat := wordBytes * b.words.size

/-- Index of the word that starts `offset` bytes into the block. -/
def index? (b : WordBlock) (offset : Int) : Option (Fin b.words.size) :=
  if h : offset % 8 = 0 ∧ 0 ≤ offset ∧ offset + 8 ≤ b.byteSize then
    some ⟨(offset / 8).toNat, by simp only [byteSize, wordBytes] at h; omega⟩
  else none

/-- The word that starts `offset` bytes into the block. -/
def read? (b : WordBlock) (offset : Int) : Option Word := (b.index? offset).map (b.words[·])

/-- The block with `value` at index `i`. -/
def set (b : WordBlock) (i : Fin b.words.size) (value : Word) : WordBlock :=
  ⟨b.words.set i value⟩

/-- The block with `value` at `offset` bytes, unless there is no such word. -/
def write? (b : WordBlock) (offset : Int) (value : Word) : Option WordBlock :=
  (b.index? offset).map (b.set · value)

/-- A byte offset names the `i`-th word exactly if it is `8 * i`. -/
theorem index?_eq_some_iff {b : WordBlock} {offset : Int} {i : Fin b.words.size} :
    b.index? offset = some i ↔ offset = 8 * (i : Nat) := by
  rw [index?]
  have hi := i.isLt
  split
  · next h =>
    simp only [Option.some.injEq, Fin.ext_iff]
    omega
  · next h =>
    simp only [reduceCtorEq, false_iff]
    intro e
    apply h
    simp only [byteSize, wordBytes]
    omega

@[simp] theorem byteSize_set (b : WordBlock) (i : Fin b.words.size) (value : Word) :
    (b.set i value).byteSize = b.byteSize := by
  simp [set, byteSize]

end WordBlock

end StackWalk
