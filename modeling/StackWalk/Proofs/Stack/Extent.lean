import StackWalk.Proofs.Stack.Write

/-!
# Extents of snapshots

A snapshot can be made of any words at any aligned address, also where they reach up to the end
of the address space or beyond it. Every access computes the end of the extent before it looks
at the address, and so does a view.

If that end is an address, each access answers, whatever the address. It finds a word exactly at
the addresses of whole words of the snapshot and refuses all others. If it is not, no access
answers, be the address in the snapshot or far from it (`isUsable_iff_fits`). The words of the
snapshot all have addresses as long as the extent ends at most at the end of the address space,
so one whose last word is that of the address space ought to be usable, and is not
(`TopOfMemory.get?_last_overflows`).
-/

set_option autoImplicit false

namespace StackWalk

/-- A byte offset is that of a whole word of the block exactly if it is a multiple of the word
size between the start of the block and its last word. -/
theorem WordBlock.isSome_index?_iff {block : WordBlock} {offset : Int} :
    (block.index? offset).isSome = true ↔
      offset % 8 = 0 ∧ 0 ≤ offset ∧ offset + 8 ≤ block.byteSize := by
  rw [index?]
  split
  · next h => exact ⟨fun _ => h, fun _ => rfl⟩
  · next h =>
    rw [Option.isSome_none]
    exact ⟨fun e => absurd e Bool.false_ne_true, fun whole => absurd whole h⟩

namespace Snapshot

/-- A whole word of the snapshot starts at `n`. This is exact arithmetic: `n` need not be the
address of a machine word. -/
structure HasWordAt (m : Snapshot) (n : Int) : Prop where
  aligned : n % 8 = 0
  above : m.low.toNat ≤ n
  below : n + 8 ≤ m.low.toNat + 8 * m.size

/-- How a snapshot comes into being: of the given words, or of as many zero words. -/
inductive IsMade (low : Word) (words : Array Word) (m : Snapshot) : Prop where
  | ofWords (made : ofWords low words = .ok m)
  | zeroed {count : Nat} (made : zeroed low count = .ok m)
      (zero : words = Array.replicate count 0)

/-- Where an access to `a` goes to: the index of a word, if there is one at `a`. -/
def slot? (m : Snapshot) (a : Word) : Except Violation (Option (Fin m.block.words.size)) := do
  let _ ← m.high
  return m.block.index? (m.offsetOf a)

/-- All that is done with a snapshot has an answer. An access is refused exactly if there is no
word of the snapshot at the address, and otherwise it goes to that word. -/
structure IsUsable (m : Snapshot) : Prop where
  high : ∃ top, m.high = .ok top ∧ top.toNat = m.low.toNat + 8 * m.size
  slot : ∀ a, ∃ i, m.slot? a = .ok i ∧ (i.isSome = true ↔ m.HasWordAt a.toNat) ∧
    ∀ j ∈ i, a.toNat = m.low.toNat + 8 * (j : Nat)
  get : ∀ a, ∃ x, m.get? a = .ok x ∧ (x.isSome = true ↔ m.HasWordAt a.toNat)
  set : ∀ a x, ∃ after, m.set? a x = .ok after ∧ (after.isSome = true ↔ m.HasWordAt a.toNat)
  view : ∀ bounds, ∃ v, StackView.ofSnapshot m bounds = .ok v ∧ v.memory = m ∧ v.bounds = bounds

/-- Nothing that is done with a snapshot has an answer, for no address. -/
structure Overflows (m : Snapshot) : Prop where
  high : m.high = .error .addressOverflow
  slot : ∀ a, m.slot? a = .error .addressOverflow
  get : ∀ a, m.get? a = .error .addressOverflow
  set : ∀ a x, m.set? a x = .error .addressOverflow
  view : ∀ bounds, StackView.ofSnapshot m bounds = .error .addressOverflow

variable {m : Snapshot} {low a x : Word} {words : Array Word}

/-- Whichever way it was made, a snapshot starts at the address and has the words that it was
made of. -/
theorem IsMade.low_and_block (made : IsMade low words m) : m.low = low ∧ m.block = ⟨words⟩ := by
  cases made with
  | ofWords made =>
      rw [Snapshot.ofWords] at made
      split at made
      · cases made
        exact ⟨rfl, rfl⟩
      · cases made
  | @zeroed count made zero =>
      subst zero
      rw [Snapshot.zeroed, Snapshot.ofWords] at made
      split at made
      · change (if maxWords < count then _ else _) = _ at made
        split at made
        · cases made
        · cases made
          exact ⟨rfl, rfl⟩
      · cases made

/-! ## Accesses -/

theorem get?_eq_slot? (m : Snapshot) (a : Word) :
    m.get? a = (m.slot? a).map (·.map (m.block.words[·])) := by
  rw [get?, slot?]
  cases m.high <;> rfl

theorem set?_eq_slot? (m : Snapshot) (a x : Word) :
    m.set? a x = (m.slot? a).map (·.map fun i => { m with block := m.block.set i x }) := by
  rw [set?, slot?]
  cases m.high with
  | error e => rfl
  | ok top =>
      show Except.ok (Option.map _ (Option.map _ _)) = Except.ok (Option.map _ _)
      rw [Option.map_map]
      rfl

theorem high_eq_ok_iff {top : Word} :
    m.high = .ok top ↔ top.toNat = m.low.toNat + 8 * m.size := by
  have extent : m.block.byteSize = 8 * m.size := rfl
  rw [high, extent]
  cases h : Word.ofNat? (m.low.toNat + 8 * m.size) with
  | none =>
      have beyond := Word.ofNat?_eq_none_iff.1 h
      have bound := UInt64.toNat_lt top
      simp only [reduceCtorEq, false_iff]
      omega
  | some w => rw [Except.ok.injEq, ← UInt64.toNat_inj, Word.ofNat?_eq_some_iff.1 h, eq_comm]

theorem isSome_index?_iff_hasWordAt :
    (m.block.index? (m.offsetOf a)).isSome = true ↔ m.HasWordAt a.toNat := by
  have start := m.low_aligned
  have extent : m.block.byteSize = 8 * m.size := rfl
  rw [WordBlock.isSome_index?_iff, offsetOf, extent]
  constructor
  · rintro ⟨aligned, above, below⟩
    exact ⟨by omega, by omega, by omega⟩
  · rintro ⟨aligned, above, below⟩
    omega

theorem exists_ofSnapshot (fits : m.low.toNat + 8 * m.size < 0x10000000000000000)
    (bounds : StackBounds) :
    ∃ v, StackView.ofSnapshot m bounds = .ok v ∧ v.memory = m ∧ v.bounds = bounds :=
  ⟨⟨m, bounds, fits⟩, dif_pos fits, rfl, rfl⟩

theorem isUsable_of_fits (fits : m.low.toNat + 8 * m.size < 0x10000000000000000) :
    m.IsUsable := by
  have high : m.high = .ok (UInt64.ofNatLT _ fits) := high_eq_ok_iff.2 UInt64.toNat_ofNatLT
  have slot : ∀ a, m.slot? a = .ok (m.block.index? (m.offsetOf a)) := by
    intro a
    rw [slot?, high]
    rfl
  constructor
  case high => exact ⟨_, high, UInt64.toNat_ofNatLT⟩
  case slot =>
    refine fun a => ⟨_, slot a, isSome_index?_iff_hasWordAt, fun j hj => ?_⟩
    have place := WordBlock.index?_eq_some_iff.1 hj
    rw [offsetOf] at place
    omega
  case get =>
    intro a
    rw [get?_eq_slot?, slot]
    exact ⟨_, rfl, by rw [Option.isSome_map, isSome_index?_iff_hasWordAt]⟩
  case set =>
    intro a x
    rw [set?_eq_slot?, slot]
    exact ⟨_, rfl, by rw [Option.isSome_map, isSome_index?_iff_hasWordAt]⟩
  case view => exact exists_ofSnapshot fits

theorem overflows_of_not_fits (beyond : 0x10000000000000000 ≤ m.low.toNat + 8 * m.size) :
    m.Overflows := by
  have high : m.high = .error .addressOverflow := high_eq_error_iff.2 ⟨rfl, beyond⟩
  have slot : ∀ a, m.slot? a = .error .addressOverflow := by
    intro a
    rw [slot?, high]
    rfl
  constructor
  case high => exact high
  case slot => exact slot
  case get =>
    intro a
    rw [get?_eq_slot?, slot]
    rfl
  case set =>
    intro a x
    rw [set?_eq_slot?, slot]
    rfl
  case view => exact fun bounds => dif_neg (Nat.not_lt.2 beyond)

theorem Overflows.not_isUsable (overflows : m.Overflows) : ¬ m.IsUsable := by
  intro usable
  obtain ⟨top, high, -⟩ := usable.high
  cases high.symm.trans overflows.high

/-- A snapshot of any words at any aligned address is usable exactly if its extent ends at an
address. Otherwise nothing can be done with it. -/
theorem isUsable_iff_fits (made : IsMade low words m) :
    (m.IsUsable ↔ low.toNat + 8 * words.size < 0x10000000000000000) ∧
      (¬ m.IsUsable → m.Overflows) := by
  obtain ⟨rfl, block⟩ := made.low_and_block
  have size : words.size = m.size := by rw [size, block, WordBlock.size]
  rw [size]
  by_cases fits : m.low.toNat + 8 * m.size < 0x10000000000000000
  · have usable := isUsable_of_fits fits
    exact ⟨⟨fun _ => fits, fun _ => usable⟩, fun unusable => absurd usable unusable⟩
  · have overflows := overflows_of_not_fits (Nat.not_lt.1 fits)
    exact ⟨⟨fun usable => absurd usable overflows.not_isUsable, fun h => absurd h fits⟩,
      fun _ => overflows⟩

end Snapshot

/-! ## The end of the address space -/

namespace TopOfMemory

/-- The last word of the address space. -/
def last : Snapshot where
  low := 0xfffffffffffffff8
  block := ⟨#[0]⟩
  low_aligned := rfl

/-- The word below it. -/
def below : Snapshot where
  low := 0xfffffffffffffff0
  block := ⟨#[0]⟩
  low_aligned := rfl

/-- The last word of the address space has an address, but a snapshot of it has no use: it
neither gives out that word nor refuses an address that is not its own. -/
theorem get?_last_overflows :
    Snapshot.IsMade 0xfffffffffffffff8 #[0] last ∧
      last.HasWordAt (0xfffffffffffffff8 : Word).toNat ∧
        last.get? 0xfffffffffffffff8 = .error .addressOverflow ∧
          last.get? 0x8000 = .error .addressOverflow ∧ ¬ last.IsUsable := by
  have overflows : last.Overflows := Snapshot.overflows_of_not_fits (by decide)
  exact ⟨.ofWords rfl, ⟨by decide, by decide, by decide⟩, overflows.get _, overflows.get _,
    overflows.not_isUsable⟩

/-- The word below it can be used. -/
theorem isUsable_below :
    Snapshot.IsMade 0xfffffffffffffff0 #[0] below ∧ below.IsUsable := by
  have zeroed : Snapshot.zeroed 0xfffffffffffffff0 1 = .ok below := rfl
  have made : Snapshot.IsMade 0xfffffffffffffff0 #[0] below := .zeroed zeroed rfl
  exact ⟨made, (Snapshot.isUsable_iff_fits made).1.2 (by decide)⟩

end TopOfMemory

end StackWalk
