import StackWalk.Anchor
import StackWalk.Proofs.Inspection.Ending

/-!
# Words after a store

A store changes one word: it is read back at the address it went to, and every other
address reads as before (`read?_of_write?`). The addresses that can be read are those that
can be written, and no store moves their range (`contains_of_write?`).
-/

set_option autoImplicit false

namespace StackWalk

theorem Word.offset?_zero (a : Word) : a.offset? 0 = some a := by
  rw [offset?_eq_some_iff]
  omega

/-- Two distances from one address that lead to the same address are equal. -/
theorem Word.offset?_inj {a b : Word} {j k : Int} (hj : a.offset? j = some b)
    (hk : a.offset? k = some b) : j = k := by
  have ej := (Word.offset?_eq_some_iff.1 hj).2
  have ek := (Word.offset?_eq_some_iff.1 hk).2
  omega

namespace WordBlock

theorem read?_eq (block : WordBlock) (n : Int) :
    block.read? n = if n % 8 = 0 ∧ 0 ≤ n then block.words[(n / 8).toNat]? else none := by
  have size : block.byteSize = 8 * block.words.size := rfl
  rw [read?, index?]
  split
  · next h =>
    rw [if_pos ⟨h.1, h.2.1⟩, Option.map_some, Array.getElem?_eq_getElem]
    rfl
  · next h =>
    split
    · rw [Option.map_none, eq_comm, Array.getElem?_eq_none_iff]
      omega
    · rfl

/-- A block with one word replaced. -/
theorem read?_set (block : WordBlock) (i : Fin block.words.size) (x : Word) (n : Int) :
    (block.set i x).read? n = if n = 8 * (i : Nat) then some x else block.read? n := by
  rw [read?_eq, read?_eq, set]
  simp only [Array.getElem?_set]
  by_cases h : n = 8 * (i : Nat)
  · have whole : n % 8 = 0 ∧ 0 ≤ n := by omega
    have index : (n / 8).toNat = i := by omega
    rw [if_pos whole, if_pos h, index, if_pos rfl]
  · rw [if_neg h]
    split
    · rw [if_neg (by omega)]
    · rfl

/-- Of two words that replace the same one the second remains. -/
theorem set_set (block : WordBlock) {i : Fin block.words.size} {x : Word}
    {j : Fin (block.set i x).words.size} (same : (j : Nat) = i) (y : Word) :
    (block.set i x).set j y = block.set i y := by
  simp only [set, same, Array.set_set]

end WordBlock

namespace StackView

variable {v w : StackView} {a b x : Word}

theorem toNat_low (v : StackView) :
    v.low.toNat = max v.memory.low.toNat v.bounds.floor.toNat := by
  show (if v.memory.low ≤ v.bounds.floor then _ else _ : Word).toNat = _
  split
  · next h => rw [Nat.max_eq_right (UInt64.le_iff_toNat_le.1 h)]
  · next h =>
    rw [Nat.max_eq_left (UInt64.le_iff_toNat_le.1 (UInt64.le_of_lt (UInt64.not_le.1 h)))]

theorem toNat_high (v : StackView) :
    v.high.toNat =
      min (v.memory.low.toNat + v.memory.block.byteSize) v.bounds.base.toNat := by
  have extent : v.memoryHigh.toNat = v.memory.low.toNat + v.memory.block.byteSize :=
    UInt64.toNat_ofNatLT
  rw [← extent]
  show (if v.memoryHigh ≤ v.bounds.base then _ else _ : Word).toNat = _
  split
  · next h => rw [Nat.min_eq_left (UInt64.le_iff_toNat_le.1 h)]
  · next h =>
    rw [Nat.min_eq_right (UInt64.le_iff_toNat_le.1 (UInt64.le_of_lt (UInt64.not_le.1 h)))]

theorem contains_iff :
    v.contains a = true ↔
      a.toNat % 8 = 0 ∧ v.low.toNat ≤ a.toNat ∧ a.toNat + 8 ≤ v.high.toNat :=
  Word.isWithin_iff

/-- At an accessible address there is a word of the memory. -/
theorem exists_index (h : v.contains a = true) :
    ∃ i, v.memory.block.index? (v.memory.offsetOf a) = some i := by
  obtain ⟨aligned, above, below⟩ := contains_iff.1 h
  rw [toNat_low] at above
  rw [toNat_high, WordBlock.byteSize, wordBytes] at below
  have start := v.memory.low_aligned
  refine ⟨⟨(a.toNat - v.memory.low.toNat) / 8, by omega⟩, ?_⟩
  rw [WordBlock.index?_eq_some_iff, Snapshot.offsetOf]
  simp only
  omega

theorem contains_of_read? (h : v.read? a = some x) : v.contains a = true := by
  rw [read?] at h
  split at h
  · assumption
  · cases h

theorem exists_read? (h : v.contains a = true) : ∃ x, v.read? a = some x := by
  obtain ⟨i, hi⟩ := exists_index h
  rw [read?, if_pos h, WordBlock.read?, hi]
  exact ⟨_, rfl⟩

theorem exists_write? (h : v.contains a = true) (x : Word) : ∃ w, v.write? a x = some w := by
  obtain ⟨i, hi⟩ := exists_index h
  rw [write?, if_pos h, hi]
  exact ⟨_, rfl⟩

/-- A store keeps the accessible range. -/
theorem contains_of_write? (h : v.write? a x = some w) (b : Word) :
    w.contains b = v.contains b := by
  rw [write?] at h
  split at h
  · obtain ⟨i, -, rfl⟩ := Option.map_eq_some_iff.1 h
    rw [Bool.eq_iff_iff, contains_iff, contains_iff, toNat_low, toNat_low, toNat_high,
      toNat_high, WordBlock.byteSize_set]
  · cases h

/-! ## Words of the memory

The bounds of a view do not confine its memory. A word can be taken from the memory itself,
also where no access through the view reaches. -/

/-- In a memory whose extent fits in the address space every word can be had. -/
theorem memory_get? (v : StackView) (a : Word) :
    v.memory.get? a = .ok (v.memory.block.read? (v.memory.offsetOf a)) := by
  rw [Snapshot.get?]
  cases h : v.memory.high with
  | error e => exact absurd (Snapshot.high_eq_error_iff.1 h).2 (Nat.not_le.2 v.fits)
  | ok high => rfl

theorem memory_get?_of_read? (h : v.read? a = some x) : v.memory.get? a = .ok (some x) := by
  rw [read?, if_pos (contains_of_read? h)] at h
  rw [memory_get?, h]

/-- A store through the view changes one word of the memory, and no other anywhere. -/
theorem memory_get?_of_write? (h : v.write? a x = some w) (b : Word) :
    w.memory.get? b = if b = a then .ok (some x) else v.memory.get? b := by
  rw [memory_get?, memory_get?]
  rw [write?] at h
  split at h
  · obtain ⟨i, hi, rfl⟩ := Option.map_eq_some_iff.1 h
    have place : v.memory.offsetOf a = 8 * (i : Nat) := WordBlock.index?_eq_some_iff.1 hi
    have same : v.memory.offsetOf b = 8 * (i : Nat) ↔ b = a := by
      rw [← place, Snapshot.offsetOf, Snapshot.offsetOf, ← UInt64.toNat_inj]
      omega
    show Except.ok ((v.memory.block.set i x).read? (v.memory.offsetOf b)) = _
    rw [WordBlock.read?_set]
    by_cases hb : b = a
    · rw [if_pos hb, if_pos (same.2 hb)]
    · rw [if_neg hb, if_neg (mt same.1 hb)]
  · cases h

theorem accessible_of_write? (h : v.write? a x = some w) : v.contains a = true := by
  rw [write?] at h
  split at h
  · assumption
  · cases h

/-- A stored word is read back, and all others are as they were. -/
theorem read?_of_write? (h : v.write? a x = some w) (b : Word) :
    w.read? b = if b = a then some x else v.read? b := by
  have range := contains_of_write? h b
  have word := memory_get?_of_write? h b
  rw [memory_get?, memory_get?] at word
  rw [read?, range, read?]
  by_cases hb : b = a
  · subst hb
    rw [if_pos rfl] at word
    rw [if_pos rfl, if_pos (accessible_of_write? h)]
    exact Except.ok.inj word
  · rw [if_neg hb] at word
    rw [if_neg hb, Except.ok.inj word]

/-- Of two stores to the same address the first has no effect. -/
theorem write?_of_write? (h : v.write? a x = some w) (y : Word) :
    w.write? a y = v.write? a y := by
  have inside := accessible_of_write? h
  have insideStill := (contains_of_write? h a).trans inside
  rw [write?, if_pos inside] at h
  obtain ⟨i, hi, rfl⟩ := Option.map_eq_some_iff.1 h
  obtain ⟨j, hj⟩ := exists_index insideStill
  have same : (j : Nat) = i := by
    have first := WordBlock.index?_eq_some_iff.1 hi
    have second := WordBlock.index?_eq_some_iff.1 hj
    change v.memory.offsetOf a = 8 * (j : Nat) at second
    omega
  rw [write?, if_pos insideStill, hj, write?, if_pos inside, hi, Option.map_some,
    Option.map_some]
  simp only [WordBlock.set_set v.memory.block same]

/-- To store the word that is read at an address leaves the view as it is. -/
theorem write?_same (h : v.read? a = some x) : v.write? a x = some v := by
  have inside := contains_of_read? h
  rw [read?, if_pos inside, WordBlock.read?] at h
  obtain ⟨i, hi, word⟩ := Option.map_eq_some_iff.1 h
  have same : v.memory.block.set i x = v.memory.block := by
    rw [WordBlock.set, ← word]
    simp
  rw [write?, if_pos inside, hi, Option.map_some]
  simp only [same]

/-! ## Words at a distance -/

variable {y : Word} {j k : Int}

theorem readAt?_eq_some_iff :
    v.readAt? a k = some x ↔ ∃ b, a.offset? k = some b ∧ v.read? b = some x := by
  rw [readAt?, Option.bind_eq_some_iff]

theorem readAt?_of_write? (h : v.write? b x = some w) (a : Word) (k : Int) :
    w.readAt? a k = if a.offset? k = some b then some x else v.readAt? a k := by
  rw [readAt?, readAt?]
  cases a.offset? k with
  | none => rfl
  | some c =>
      rw [Option.bind_some, Option.bind_some, read?_of_write? h]
      simp only [Option.some.injEq]

/-- Where a word can be read at a distance, one can be stored. -/
theorem write?_putAt (h : v.readAt? a k = some y) (x : Word) :
    ∃ b, a.offset? k = some b ∧ v.read? b = some y ∧ v.write? b x = some (v.putAt a k x) := by
  obtain ⟨b, hb, hy⟩ := readAt?_eq_some_iff.1 h
  obtain ⟨w, hw⟩ := exists_write? (contains_of_read? hy) x
  refine ⟨b, hb, hy, ?_⟩
  rw [putAt, writeAt?, hb, Option.bind_some, hw, Option.getD_some]

theorem readAt?_putAt_self (h : v.readAt? a k = some y) (x : Word) :
    (v.putAt a k x).readAt? a k = some x := by
  obtain ⟨b, hb, -, hw⟩ := write?_putAt h x
  rw [readAt?_of_write? hw, if_pos hb]

theorem readAt?_putAt_of_ne (h : j ≠ k) (v : StackView) (a x : Word) :
    (v.putAt a k x).readAt? a j = v.readAt? a j := by
  rw [putAt, writeAt?]
  cases hk : a.offset? k with
  | none => rfl
  | some b =>
      rw [Option.bind_some]
      cases hw : v.write? b x with
      | none => rfl
      | some w =>
          rw [Option.getD_some, readAt?_of_write? hw, if_neg]
          exact fun hj => h (Word.offset?_inj hj hk)

/-- Storing at a distance changes the one word there. -/
theorem read?_putAt (h : v.readAt? a k = some y) (x b : Word) :
    (v.putAt a k x).read? b = if a.offset? k = some b then some x else v.read? b := by
  obtain ⟨c, hc, -, hw⟩ := write?_putAt h x
  rw [hc, read?_of_write? hw]
  simp only [Option.some.injEq, eq_comm]

theorem memory_get?_putAt (h : v.readAt? a k = some y) (x b : Word) :
    (v.putAt a k x).memory.get? b =
      if a.offset? k = some b then .ok (some x) else v.memory.get? b := by
  obtain ⟨c, hc, -, hw⟩ := write?_putAt h x
  rw [hc, memory_get?_of_write? hw]
  simp only [Option.some.injEq, eq_comm]

/-- To store a word that is there already changes nothing. -/
theorem putAt_same (h : v.readAt? a k = some y) : v.putAt a k y = v := by
  obtain ⟨b, -, hy, hw⟩ := write?_putAt h y
  rw [write?_same hy] at hw
  exact (Option.some.inj hw).symm

end StackView

namespace AnchorSite

variable {v : StackView} {address : Word} {site : AnchorSite}

theorem load?_eq_some_iff :
    load? v address = some site ↔
      site.address = address ∧ v.readAt? address spOffset = some site.anchor.lastSp ∧
        v.readAt? address pcOffset = some site.anchor.lastPc ∧
          v.readAt? address fpOffset = some site.anchor.lastFp := by
  simp only [load?, Option.bind_eq_bind, Option.bind_eq_some_iff, Option.pure_def,
    Option.some.injEq]
  constructor
  · rintro ⟨sp, hsp, pc, hpc, fp, hfp, rfl⟩
    exact ⟨rfl, hsp, hpc, hfp⟩
  · rintro ⟨rfl, hsp, hpc, hfp⟩
    exact ⟨_, hsp, _, hpc, _, hfp, rfl⟩

section Put

variable (h : load? v site.address = some site)

include h

/-- Of the words of an anchor the frame pointer is stored second, and the pc last. Those that
are stored before it leave each as it is. -/
theorem readAt?_fp_of_putAt (sp : Word) :
    (v.putAt site.address spOffset sp).readAt? site.address fpOffset =
      some site.anchor.lastFp := by
  rw [StackView.readAt?_putAt_of_ne (by decide)]
  exact (load?_eq_some_iff.1 h).2.2.2

theorem readAt?_pc_of_putAt (sp fp : Word) :
    ((v.putAt site.address spOffset sp).putAt site.address fpOffset fp).readAt? site.address
      pcOffset = some site.anchor.lastPc := by
  rw [StackView.readAt?_putAt_of_ne (by decide), StackView.readAt?_putAt_of_ne (by decide)]
  exact (load?_eq_some_iff.1 h).2.2.1

/-- An anchor that was stored is the one that is loaded. -/
theorem load?_put (a : Anchor) : load? (site.put a v) site.address = some ⟨site.address, a⟩ := by
  have sp : (site.put a v).readAt? site.address spOffset = some a.lastSp := by
    rw [put, StackView.readAt?_putAt_of_ne (by decide), StackView.readAt?_putAt_of_ne (by decide)]
    exact StackView.readAt?_putAt_self (load?_eq_some_iff.1 h).2.1 _
  have fp : (site.put a v).readAt? site.address fpOffset = some a.lastFp := by
    rw [put, StackView.readAt?_putAt_of_ne (by decide)]
    exact StackView.readAt?_putAt_self (readAt?_fp_of_putAt h _) _
  have pc : (site.put a v).readAt? site.address pcOffset = some a.lastPc :=
    StackView.readAt?_putAt_self (readAt?_pc_of_putAt h _ _) _
  exact load?_eq_some_iff.2 ⟨rfl, sp, pc, fp⟩

/-- Storing the anchor as it was loaded changes nothing. -/
theorem put_same : site.put site.anchor v = v := by
  obtain ⟨-, sp, pc, fp⟩ := load?_eq_some_iff.1 h
  rw [put, StackView.putAt_same sp, StackView.putAt_same fp, StackView.putAt_same pc]

/-- Storing it with another pc is storing that pc. -/
theorem put_pc (pc : Word) :
    site.put { site.anchor with lastPc := pc } v = v.putAt site.address pcOffset pc := by
  obtain ⟨-, sp, -, fp⟩ := load?_eq_some_iff.1 h
  rw [put, StackView.putAt_same sp, StackView.putAt_same fp]

/-- Then the pc word changes in memory, and no other. -/
theorem memory_get?_put (pc b : Word) :
    (site.put { site.anchor with lastPc := pc } v).memory.get? b =
      if site.address.offset? pcOffset = some b then .ok (some pc) else v.memory.get? b := by
  rw [put_pc h, StackView.memory_get?_putAt (load?_eq_some_iff.1 h).2.2.1]

end Put

end AnchorSite

end StackWalk
