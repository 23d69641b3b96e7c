import StackWalk.Proofs.Frame.Ascent
import StackWalk.Proofs.Safety.Entry
import StackWalk.Proofs.Walk.Footprint

/-!
# Asking for a caller again

To compute the caller of an entry frame may capture the pc of its anchor, and so change the
memory on which the caller was found. If the frame was safe, that makes no difference to
anybody who asks again: the frame is still safe, its caller is the same one, and nothing is
written any more (`caller_repeats`).

A capture stores into a word that was zero. No word that led to the anchor was: the address of
the call wrapper, which is above the frame pointer, and the recorded stack pointer, which is
above the frame (`readAt?_put_of_captured`). The pc that was captured is not captured anew, so
the word from which it was read does not matter any more (`callerFromAnchor_again`).
-/

set_option autoImplicit false

namespace StackWalk

open Inspection

/-- A pc that is known is not captured anew, on no memory. -/
theorem Anchor.captured_of_isWalkable {a : Anchor} (h : a.isWalkable = true) (v : StackView) :
    a.captured v = .ok a := by
  rw [captured, if_pos h]

namespace Frame

variable {f s : Frame} {ctx : WalkContext} {options : WalkOptions} {v w : StackView}
  {site : AnchorSite} {b : Anchor}

/-- A capture leaves every word alone that is not zero. -/
theorem readAt?_put_of_captured (loaded : AnchorSite.load? v site.address = some site)
    (hc : site.anchor.captured v = .ok b) {a x : Word} {k : Int} (nonzero : x ≠ 0)
    (h : v.readAt? a k = some x) : (site.put b v).readAt? a k = some x := by
  rcases Anchor.eq_or_capturesTo_of_captured hc with rfl | ⟨unknown, pc, -, -, rfl⟩
  · rw [AnchorSite.put_same loaded]
    exact h
  · obtain ⟨-, -, word, -⟩ := AnchorSite.load?_eq_some_iff.1 loaded
    obtain ⟨c, hc, read⟩ := StackView.readAt?_eq_some_iff.1 h
    rw [AnchorSite.put_pc loaded, StackView.readAt?_eq_some_iff]
    refine ⟨c, hc, ?_⟩
    rw [StackView.read?_putAt word, if_neg, read]
    intro place
    -- the word that was stored over would be the unknown pc
    obtain ⟨d, hd, zero⟩ := StackView.readAt?_eq_some_iff.1 word
    rw [place] at hd
    cases hd
    rw [read, unknown] at zero
    exact nonzero (Option.some.inj zero)

/-- Following an anchor a second time finds the pc that was captured the first time. -/
theorem callerFromAnchor_again (loaded : AnchorSite.load? v site.address = some site)
    (h : (f.callerFromAnchor ctx site).ending v = (.ok s, w)) :
    ∃ b, site.anchor.captured v = .ok b ∧ w = site.put b v ∧
      (f.callerFromAnchor ctx ⟨site.address, b⟩).ending w = (.ok s, w) := by
  obtain ⟨recorded, above, b, hc, walkable, rfl, rfl⟩ := callerFromAnchor_ending_eq_ok_iff.1 h
  refine ⟨b, hc, rfl, ?_⟩
  have sp := Anchor.lastSp_of_captured hc
  have same : AnchorSite.put ⟨site.address, b⟩ b (site.put b v) = site.put b v :=
    AnchorSite.put_same (AnchorSite.load?_put loaded b)
  rw [callerFromAnchor_ending_eq_ok_iff]
  refine ⟨?recorded, ?above, b, Anchor.captured_of_isWalkable walkable _, walkable, ?_, ?_⟩
  case recorded =>
    show decide (b.lastSp ≠ 0) = true
    rw [sp]
    exact recorded
  case above =>
    show f.sp < b.lastSp
    rw [sp]
    exact above
  · exact same.symm
  · rw [same]

/-! ## Finding the anchor again -/

theorem anchorAbove_again {start offset : Word} (h : anchorAbove start offset v = .ok site)
    (b : Anchor) : anchorAbove start offset (site.put b v) = .ok ⟨site.address, b⟩ := by
  have stored := AnchorSite.load?_put (load?_of_anchorAbove h) b
  rw [anchorAbove] at h ⊢
  cases ha : start.checkedAdd? offset with
  | none =>
      rw [ha] at h
      cases h
  | some address =>
      rw [ha] at h
      simp only at h ⊢
      split at h
      · next loaded hl =>
        cases h
        rw [← (AnchorSite.load?_eq_some_iff.1 hl).1, stored]
      · cases h

theorem upcallAnchor_again (h : f.upcallAnchor v = .ok site) (b : Anchor) :
    f.upcallAnchor (site.put b v) = .ok ⟨site.address, b⟩ := by
  rw [upcallAnchor] at h ⊢
  split at h
  · cases h
  · split at h
    · cases h
    · exact anchorAbove_again h b

/-- The wrapper of an entry frame is found again if its address is not zero. -/
theorem entryAnchor_again {layout : EntryLayout} {wrapper : Word}
    (stored : f.callWrapper? layout v = some wrapper) (nonzero : wrapper ≠ 0)
    (h : f.entryAnchor layout v = .ok site) (hc : site.anchor.captured v = .ok b) :
    f.callWrapper? layout (site.put b v) = some wrapper ∧
      f.entryAnchor layout (site.put b v) = .ok ⟨site.address, b⟩ := by
  have kept : f.callWrapper? layout (site.put b v) = some wrapper :=
    readAt?_put_of_captured (load?_of_entryAnchor h) hc nonzero stored
  refine ⟨kept, ?_⟩
  rw [entryAnchor, stored] at h
  rw [entryAnchor, kept]
  exact anchorAbove_again h b

/-! ## Each kind of frame -/

/-- A safe frame of the call stub is safe on the memory after its caller was computed, and
leads to the same caller again. -/
theorem caller_again_of_entry (built : f.IsBuiltIn ctx) (entry : f.kind = .entry)
    (safe : f.verdict ctx v = true) (h : (f.caller ctx options).ending v = (.ok s, w)) :
    f.verdict ctx w = true ∧ (f.caller ctx options).ending w = (.ok s, w) := by
  obtain ⟨r, hr⟩ := built.exists_region (by simp [entry])
  obtain ⟨pointers, settled, based, valid⟩ := (verdict_entry_iff hr entry).1 safe
  obtain ⟨wrapper, site, stored, inside, anchored, above⟩ := isEntryValid_iff.1 valid
  rw [caller_ending_of_entry entry, anchored] at h
  obtain ⟨b, hc, rfl, again⟩ := callerFromAnchor_again (load?_of_entryAnchor anchored) h
  have nonzero : wrapper ≠ 0 := Word.ne_zero_of_lt (StackBounds.isAbove_iff.1 inside).2
  obtain ⟨kept, found⟩ := entryAnchor_again stored nonzero anchored hc
  have bounds := site.put_bounds b v
  constructor
  · rw [verdict_entry_iff hr entry, bounds, isEntryValid_iff, bounds]
    refine ⟨pointers, settled, based, wrapper, ⟨site.address, b⟩, kept, inside, found, ?_⟩
    rw [Anchor.lastSp_of_captured hc]
    exact above
  · rw [caller_ending_of_entry entry, found]
    exact again

/-- The check of an upcall frame reads no memory, and its anchor is at a fixed distance. -/
theorem caller_again_of_upcall (built : f.IsBuiltIn ctx) (upcall : f.kind = .upcall)
    (safe : f.verdict ctx v = true) (h : (f.caller ctx options).ending v = (.ok s, w)) :
    f.verdict ctx w = true ∧ (f.caller ctx options).ending w = (.ok s, w) := by
  obtain ⟨r, hr⟩ := built.exists_region (by simp [upcall])
  rw [caller_ending_of_upcall upcall] at h
  cases anchored : f.upcallAnchor v with
  | error e =>
      rw [anchored] at h
      cases h
  | ok site =>
      rw [anchored] at h
      obtain ⟨b, hc, rfl, again⟩ := callerFromAnchor_again (load?_of_upcallAnchor anchored) h
      constructor
      · rw [verdict_upcall_iff hr upcall, site.put_bounds b v]
        exact (verdict_upcall_iff hr upcall).1 safe
      · rw [caller_ending_of_upcall upcall, upcallAnchor_again anchored b]
        exact again

theorem caller_again (built : f.IsBuiltIn ctx) (safe : f.verdict ctx v = true)
    (h : (f.caller ctx options).ending v = (.ok s, w)) :
    f.verdict ctx w = true ∧ (f.caller ctx options).ending w = (.ok s, w) := by
  cases hk : f.kind with
  | entry => exact caller_again_of_entry built hk safe h
  | upcall => exact caller_again_of_upcall built hk safe h
  | interpreted | compiled | native =>
      -- the other callers are found without a store
      have same := f.isReadOnly_caller (by simp [hk]) (by simp [hk]) ctx options v
      rw [h] at same
      change w = v at same
      subst same
      exact ⟨safe, h⟩

/-- If the caller of a safe frame was computed, then on the memory that this leaves the frame is
safe as before, its caller is the same frame, and to compute it changes nothing. -/
theorem caller_repeats (built : f.IsBuiltIn ctx)
    (safe : ((f.callerIsSafe ctx).run v).result = .ok true)
    (computed : ((f.caller ctx options).run v).result = .ok s) :
    ((f.callerIsSafe ctx).run ((f.caller ctx options).run v).stack).result = .ok true ∧
      ((f.caller ctx options).run ((f.caller ctx options).run v).stack).result = .ok s ∧
        ((f.caller ctx options).run ((f.caller ctx options).run v).stack).stack =
          ((f.caller ctx options).run v).stack := by
  have ends : (f.caller ctx options).ending v = (.ok s, ((f.caller ctx options).run v).stack) := by
    rw [ending, computed]
  obtain ⟨still, again⟩ := caller_again built (callerIsSafe_eq_true_iff.1 safe) ends
  exact ⟨callerIsSafe_eq_true_iff.2 still, result_of_ending again, stack_of_ending again⟩

end Frame

/-- The first step from the frame of the call stub captures a pc, and the second finds it. -/
theorem LateCapture.caller_repeats_frame :
    frame.IsBuiltIn context ∧
      ((frame.callerIsSafe context).run (view 0x5000)).result = .ok true ∧
        ((frame.caller context ⟨false⟩).run (view 0x5000)).result =
            .ok (context.frameOn (view 0x5000) 0x9080 0x9080 0x9090 0x5000) ∧
          ((frame.caller context ⟨false⟩).run
              ((frame.caller context ⟨false⟩).run (view 0x5000)).stack).result =
            .ok (context.frameOn (view 0x5000) 0x9080 0x9080 0x9090 0x5000) := by
  have built : frame.IsBuiltIn context := context.frameOn_isBuiltIn ..
  have computed : ((frame.caller context ⟨false⟩).run (view 0x5000)).result =
      .ok (context.frameOn (view 0x5000) 0x9080 0x9080 0x9090 0x5000) := rfl
  exact ⟨built, rfl, computed, (Frame.caller_repeats built rfl computed).2.1⟩

end StackWalk
