import StackWalk.Proofs.Stack.Write

/-!
# Stacks that differ out of reach

Two stacks agree if they have the same extent and the same bounds and hold the same words at
all accessible addresses. Of their other words nothing is said: those of the memory that lie
outside the bounds, and one at either end that is only partly inside. What can be read of such
stacks is the same (`AgreesWith.read?_eq`), and stores keep it so (`AgreesWith.put`).

A store never reaches the words outside either (`KeepsOutside`).
-/

set_option autoImplicit false

namespace StackWalk

namespace StackView

/-- The memories have the same extent, and the bounds are the same. -/
structure SameRange (v w : StackView) : Prop where
  low : w.memory.low = v.memory.low
  size : w.memory.size = v.memory.size
  bounds : w.bounds = v.bounds

/-- The two stacks differ at most in words that are not accessible. -/
structure AgreesWith (v w : StackView) : Prop extends SameRange v w where
  words : ∀ a, v.contains a = true → w.memory.get? a = v.memory.get? a

/-- The stack has become `w`, and no word that is not accessible has changed. -/
structure KeepsOutside (v w : StackView) : Prop extends SameRange v w where
  words : ∀ a, v.contains a = false → w.memory.get? a = v.memory.get? a

variable {u v w : StackView} {a x : Word} {k : Int}

theorem SameRange.refl (v : StackView) : v.SameRange v := ⟨rfl, rfl, rfl⟩

theorem SameRange.symm (h : v.SameRange w) : w.SameRange v :=
  ⟨h.low.symm, h.size.symm, h.bounds.symm⟩

theorem SameRange.trans (h : u.SameRange v) (h' : v.SameRange w) : u.SameRange w :=
  ⟨h'.low.trans h.low, h'.size.trans h.size, h'.bounds.trans h.bounds⟩

/-- What is accessible depends on the range alone. -/
theorem SameRange.contains_eq (h : v.SameRange w) (a : Word) : w.contains a = v.contains a := by
  have size : w.memory.block.byteSize = v.memory.block.byteSize :=
    congrArg (wordBytes * ·) h.size
  rw [Bool.eq_iff_iff, contains_iff, contains_iff, toNat_low, toNat_low, toNat_high, toNat_high,
    h.low, h.bounds, size]

theorem KeepsOutside.refl (v : StackView) : v.KeepsOutside v := ⟨.refl v, fun _ _ => rfl⟩

theorem KeepsOutside.trans (h : u.KeepsOutside v) (h' : v.KeepsOutside w) : u.KeepsOutside w := by
  refine ⟨h.toSameRange.trans h'.toSameRange, ?_⟩
  -- the first store leaves the same words out of reach for the second
  intro a outside
  have outside' : v.contains a = false := (h.contains_eq a).trans outside
  rw [h'.words a outside', h.words a outside]

/-! ## Stores -/

theorem sameRange_of_write? (h : v.write? a x = some w) : v.SameRange w := by
  rw [write?] at h
  split at h
  · obtain ⟨i, -, rfl⟩ := Option.map_eq_some_iff.1 h
    exact ⟨rfl, Array.size_set i.isLt, rfl⟩
  · cases h

theorem keepsOutside_of_write? (h : v.write? a x = some w) : v.KeepsOutside w := by
  refine ⟨sameRange_of_write? h, ?_⟩
  intro b outside
  rw [memory_get?_of_write? h, if_neg]
  rintro rfl
  rw [accessible_of_write? h] at outside
  cases outside

theorem keepsOutside_putAt (v : StackView) (a : Word) (k : Int) (x : Word) :
    v.KeepsOutside (v.putAt a k x) := by
  rw [putAt, writeAt?]
  cases a.offset? k with
  | none => exact .refl v
  | some b =>
      rw [Option.bind_some]
      cases hw : v.write? b x with
      | none => exact .refl v
      | some w => exact keepsOutside_of_write? hw

theorem keepsOutside_put (site : AnchorSite) (b : Anchor) (v : StackView) :
    v.KeepsOutside (site.put b v) :=
  ((keepsOutside_putAt _ _ _ _).trans (keepsOutside_putAt _ _ _ _)).trans
    (keepsOutside_putAt _ _ _ _)

namespace AgreesWith

theorem read?_eq (h : v.AgreesWith w) : w.read? = v.read? := by
  funext a
  cases inside : v.contains a with
  | false =>
      rw [read?_eq_none_of_not_contains inside,
        read?_eq_none_of_not_contains ((h.contains_eq a).trans inside)]
  | true =>
      have same := h.words a inside
      rw [memory_get?, memory_get?] at same
      rw [read?, read?, h.contains_eq a, inside]
      exact Except.ok.inj same

theorem readAt?_eq (h : v.AgreesWith w) : w.readAt? = v.readAt? := by
  funext a k
  rw [readAt?, readAt?, h.read?_eq]

/-- A word can be stored in both stacks or in neither, and they still agree. -/
theorem write? (h : v.AgreesWith w) (a x : Word) :
    v.write? a x = none ∧ w.write? a x = none ∨
      ∃ v' w', v.write? a x = some v' ∧ w.write? a x = some w' ∧ v'.AgreesWith w' := by
  cases inside : v.contains a with
  | false =>
      have outside := (h.contains_eq a).trans inside
      exact Or.inl ⟨write?_eq_none_of_not_contains inside, write?_eq_none_of_not_contains outside⟩
  | true =>
      obtain ⟨v', hv⟩ := exists_write? inside x
      obtain ⟨w', hw⟩ := exists_write? ((h.contains_eq a).trans inside) x
      refine Or.inr ⟨v', w', hv, hw, ?_, ?_⟩
      · exact ((sameRange_of_write? hv).symm.trans h.toSameRange).trans (sameRange_of_write? hw)
      · intro b accessible
        rw [(sameRange_of_write? hv).contains_eq b] at accessible
        rw [memory_get?_of_write? hv, memory_get?_of_write? hw, h.words b accessible]

theorem putAt (h : v.AgreesWith w) (a : Word) (k : Int) (x : Word) :
    (v.putAt a k x).AgreesWith (w.putAt a k x) := by
  rw [StackView.putAt, StackView.putAt, writeAt?, writeAt?]
  cases a.offset? k with
  | none => exact h
  | some b =>
      rw [Option.bind_some, Option.bind_some]
      rcases h.write? b x with ⟨hv, hw⟩ | ⟨v', w', hv, hw, agree⟩
      · rw [hv, hw]
        exact h
      · rw [hv, hw]
        exact agree

theorem put (h : v.AgreesWith w) (site : AnchorSite) (b : Anchor) :
    (site.put b v).AgreesWith (site.put b w) :=
  ((h.putAt _ _ _).putAt _ _ _).putAt _ _ _

end AgreesWith

end StackView

end StackWalk
