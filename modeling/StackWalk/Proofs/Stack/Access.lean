import StackWalk.Proofs.Stack.Agreement
import StackWalk.Proofs.Stack.Extent

/-!
# Accesses through a view

A view of a memory, whatever the bounds, gives out and takes in exactly the whole words of the
memory that lie within the bounds. Reading and storing succeed at the same addresses; a store
that succeeds changes the word at its address and no other, and one that is refused changes
nothing. An access at a distance is the access to the address that exact arithmetic finds there.
If that is not the address of such a word, or if the distance in bytes is not a signed 64-bit
number, it is refused: no distance leads around the end of the address space to some other word
(`accesses_of_fits`).
-/

set_option autoImplicit false

namespace StackWalk

open Inspection

/-- A whole word of the memory starts at `n` and lies within the bounds. -/
structure Snapshot.HasWordWithin (m : Snapshot) (b : StackBounds) (n : Int) : Prop
    extends m.HasWordAt n where
  above_floor : b.floor.toNat ≤ n
  below_base : n + 8 ≤ b.base.toNat

/-- `k` words are a distance: their bytes can be counted by a signed 64-bit number. -/
def Word.IsDistance (k : Int) : Prop := -0x8000000000000000 ≤ 8 * k ∧ 8 * k < 0x8000000000000000

namespace StackView

/-- The accesses at `a` succeed if `present`, and are refused otherwise. -/
structure SucceedsAt (v : StackView) (a : Word) (present : Prop) : Prop where
  contains : v.contains a = true ↔ present
  read : (∃ x, v.read? a = some x) ↔ present
  write : ∀ x, (∃ w, v.write? a x = some w) ↔ present

/-- `w` is the stack `v` with `x` stored at `a`: the word is read back, and the memory has all
its other words and its extent as before, also where no access reaches. -/
structure IsStored (v : StackView) (a x : Word) (w : StackView) : Prop extends v.SameRange w where
  written : w.read? a = some x
  others : ∀ b, b ≠ a → w.memory.get? b = v.memory.get? b

/-- The accesses `k` words away from `a` succeed if `present`, and are refused otherwise. If they
succeed, they are those to the one word at the exact address. -/
structure SucceedsAway (v : StackView) (a : Word) (k : Int) (present : Prop) : Prop where
  address : (∃ b, v.addressAt? a k = some b) ↔ present
  read : (∃ x, v.readAt? a k = some x) ↔ present
  write : ∀ x, (∃ w, v.writeAt? a k x = some w) ↔ present
  place : ∀ b, v.addressAt? a k = some b → (b.toNat : Int) = a.toNat + 8 * k ∧
    v.readAt? a k = v.read? b ∧ ∀ x, v.writeAt? a k x = v.write? b x
  refused : ¬ present → ∀ x, v.putAt a k x = v

variable {v w : StackView} {a b x : Word} {k : Int}

theorem contains_iff_hasWordWithin :
    v.contains a = true ↔ v.memory.HasWordWithin v.bounds a.toNat := by
  have extent : v.memory.block.byteSize = 8 * v.memory.size := rfl
  rw [contains_iff, toNat_low, toNat_high, extent]
  constructor
  · rintro ⟨aligned, above, below⟩
    exact ⟨⟨by omega, by omega, by omega⟩, by omega, by omega⟩
  · rintro ⟨⟨aligned, above, below⟩, floor, base⟩
    omega

theorem succeedsAt (v : StackView) (a : Word) :
    v.SucceedsAt a (v.memory.HasWordWithin v.bounds a.toNat) where
  contains := contains_iff_hasWordWithin
  read := by
    rw [← contains_iff_hasWordWithin]
    exact ⟨fun ⟨_, h⟩ => contains_of_read? h, exists_read?⟩
  write := by
    intro x
    rw [← contains_iff_hasWordWithin]
    exact ⟨fun ⟨_, h⟩ => accessible_of_write? h, fun inside => exists_write? inside x⟩

theorem isStored_of_write? (h : v.write? a x = some w) : v.IsStored a x w where
  toSameRange := sameRange_of_write? h
  written := by rw [read?_of_write? h, if_pos rfl]
  others := by
    intro b other
    rw [memory_get?_of_write? h, if_neg other]

/-! ## At a distance -/

/-- A word lies `k` words away from `a`, at an exact distance, exactly if its address is found
there and accessible. -/
theorem addressAt?_eq_some_iff :
    v.addressAt? a k = some b ↔ a.offset? k = some b ∧ v.contains b = true := by
  rw [addressAt?, Option.filter_eq_some_iff]

theorem exists_addressAt?_iff :
    (∃ b, v.addressAt? a k = some b) ↔
      Word.IsDistance k ∧ v.memory.HasWordWithin v.bounds (a.toNat + 8 * k) := by
  constructor
  · rintro ⟨b, found⟩
    obtain ⟨away, inside⟩ := addressAt?_eq_some_iff.1 found
    obtain ⟨distance, place⟩ := Word.offset?_eq_some_iff.1 away
    rw [← place]
    exact ⟨distance, contains_iff_hasWordWithin.1 inside⟩
  · rintro ⟨distance, word⟩
    -- the word lies below the base, so its address is a machine word
    obtain ⟨b, away, place⟩ := Word.exists_offset? (a := a) distance (by
      have below := word.below_base
      have above := word.above_floor
      have top := UInt64.toNat_lt v.bounds.base
      omega)
    rw [← place] at word
    exact ⟨b, addressAt?_eq_some_iff.2 ⟨away, contains_iff_hasWordWithin.2 word⟩⟩

/-- Where an access at a distance succeeds, there is an address. -/
theorem exists_readAt?_iff : (∃ x, v.readAt? a k = some x) ↔ ∃ b, v.addressAt? a k = some b := by
  constructor
  · rintro ⟨x, read⟩
    obtain ⟨b, away, word⟩ := readAt?_eq_some_iff.1 read
    exact ⟨b, addressAt?_eq_some_iff.2 ⟨away, contains_of_read? word⟩⟩
  · rintro ⟨b, found⟩
    obtain ⟨away, inside⟩ := addressAt?_eq_some_iff.1 found
    obtain ⟨x, word⟩ := exists_read? inside
    exact ⟨x, readAt?_eq_some_iff.2 ⟨b, away, word⟩⟩

theorem exists_writeAt?_iff :
    (∃ w, v.writeAt? a k x = some w) ↔ ∃ b, v.addressAt? a k = some b := by
  constructor
  · rintro ⟨w, stored⟩
    obtain ⟨b, away, word⟩ := Option.bind_eq_some_iff.1 stored
    exact ⟨b, addressAt?_eq_some_iff.2 ⟨away, accessible_of_write? word⟩⟩
  · rintro ⟨b, found⟩
    obtain ⟨away, inside⟩ := addressAt?_eq_some_iff.1 found
    obtain ⟨w, word⟩ := exists_write? inside x
    exact ⟨w, Option.bind_eq_some_iff.2 ⟨b, away, word⟩⟩

theorem succeedsAway (v : StackView) (a : Word) (k : Int) :
    v.SucceedsAway a k
      (Word.IsDistance k ∧ v.memory.HasWordWithin v.bounds (a.toNat + 8 * k)) where
  address := exists_addressAt?_iff
  read := exists_readAt?_iff.trans exists_addressAt?_iff
  write := fun _ => exists_writeAt?_iff.trans exists_addressAt?_iff
  place := by
    intro b found
    have away := (addressAt?_eq_some_iff.1 found).1
    refine ⟨(Word.offset?_eq_some_iff.1 away).2, ?_, fun x => ?_⟩
    · rw [readAt?, away, Option.bind_some]
    · rw [writeAt?, away, Option.bind_some]
  refused := by
    intro absent x
    rw [putAt]
    cases stored : v.writeAt? a k x with
    | none => rfl
    | some w =>
        exact absurd (exists_addressAt?_iff.1 (exists_writeAt?_iff.1 ⟨w, stored⟩)) absent

/-- A memory whose extent fits in the address space can be viewed within any bounds. Through the
view exactly the words within the bounds are read and stored, at their address and at any
distance, and nothing else changes. -/
theorem accesses_of_fits {m : Snapshot} (fits : m.low.toNat + 8 * m.size < 0x10000000000000000)
    (bounds : StackBounds) :
    ∃ v, ofSnapshot m bounds = .ok v ∧ v.memory = m ∧ v.bounds = bounds ∧
      (∀ a, v.SucceedsAt a (m.HasWordWithin bounds a.toNat)) ∧
      (∀ a x w, v.write? a x = some w →
        v.IsStored a x w ∧ (write a x).ending v = (.ok true, w)) ∧
      (∀ a x, v.write? a x = none → (write a x).ending v = (.ok false, v)) ∧
      ∀ a k, v.SucceedsAway a k
        (Word.IsDistance k ∧ m.HasWordWithin bounds (a.toNat + 8 * k)) := by
  obtain ⟨v, made, rfl, rfl⟩ := Snapshot.exists_ofSnapshot fits bounds
  refine ⟨v, made, rfl, rfl, v.succeedsAt, ?_, ?_, v.succeedsAway⟩
  · intro a x w stored
    exact ⟨isStored_of_write? stored, by rw [ending_write, stored]; rfl⟩
  · intro a x refused
    rw [ending_write, refused]
    rfl

end StackView

/-! ## Bounds that part words -/

namespace PartedWords

/-- Four words of a stack. -/
def memory : Snapshot where
  low := 0x12000
  block := ⟨#[1, 2, 3, 4]⟩
  low_aligned := rfl

/-- Bounds that cut through the first of them and through the last. -/
def bounds : StackBounds := ⟨0x1201c, 0x12003, 0⟩

/-- Only the words between those can be read. From one of them, so many words away that the
distance would lead once around the address space and back, there is none. -/
theorem contains_of_whole :
    memory.low.toNat + 8 * memory.size < 0x10000000000000000 ∧
      ∃ v, StackView.ofSnapshot memory bounds = .ok v ∧ v.contains 0x12008 = true ∧
        ¬ v.contains 0x12000 = true ∧ ¬ v.contains 0x12018 = true ∧
          ¬ ∃ b, v.addressAt? 0x12008 0x2000000000000000 = some b := by
  have fits : memory.low.toNat + 8 * memory.size < 0x10000000000000000 := by decide
  obtain ⟨v, made, -, -, here, -, -, away⟩ := StackView.accesses_of_fits fits bounds
  refine ⟨fits, v, made, (here _).contains.2 ?_, ?_, ?_, ?_⟩
  · exact ⟨⟨by decide, by decide, by decide⟩, by decide, by decide⟩
  · exact fun inside => absurd ((here _).contains.1 inside).above_floor (by decide)
  · exact fun inside => absurd ((here _).contains.1 inside).below_base (by decide)
  · exact fun found => absurd ((away _ _).address.1 found).1.2 (by decide)

end PartedWords

end StackWalk
