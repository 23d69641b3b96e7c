import StackWalk.Proofs.Safety.Entry

/-!
# The oldest managed frame

A walk ends quietly at the oldest managed frame of its thread. Whether a frame is that one is
asked of its anchor: it has one, and the anchor records nothing. Computing the caller comes to the
same answer in a longer way, through errors of the look-up of the anchor, a test of the record,
and a second one when the pc is captured. Both agree on every frame and every memory
(`Frame.isFirst_iff_caller_firstFrame`).

No other step of computing a caller gives this answer (`Avoids`). An anchor that cannot be found
is another error, and the second test comes only after the first (`Anchor.captured_ne_firstFrame`).
-/

set_option autoImplicit false

namespace StackWalk

open Inspection

/-! ## Errors that are not given -/

namespace Inspection

variable {α β : Type} {e : FrameError}

/-- On no memory is the error the answer of the inspection. -/
def Avoids (x : Inspection α) (e : FrameError) : Prop :=
  ∀ v, (x.ending v).1 ≠ .error (.error e)

/-- An inspection that always succeeds avoids every error. -/
theorem avoids_of_ok {x : Inspection α} {a : StackView → α}
    (succeeds : ∀ v, (x.ending v).1 = .ok (a v)) : Avoids x e := by
  intro v h
  rw [succeeds] at h
  cases h

theorem avoids_require (c : Bool) (broken : Violation) : Avoids (require c broken) e := by
  intro v h
  rw [ending_require] at h
  cases c <;> cases h

theorem avoids_orError (x : Option α) {other : FrameError} (h : other ≠ e) :
    Avoids (orError x other) e := by
  intro v given
  rw [ending_orError] at given
  cases x with
  | some a => cases given
  | none =>
      cases given
      exact h rfl

theorem avoids_bind {x : Inspection α} {f : α → Inspection β} (hx : Avoids x e)
    (hf : ∀ a, Avoids (f a) e) : Avoids (x >>= f) e := by
  intro v
  have first := hx v
  rw [ending_bind]
  rcases ends : x.ending v with ⟨failed | a, w⟩
  · rw [ends] at first
    intro h
    cases h
    exact first rfl
  · exact hf a w

end Inspection

/-- Once a frame is recorded, capturing its pc does not find that there is none. -/
theorem Anchor.captured_ne_firstFrame {a : Anchor} (recorded : a.hasLastFrame = true)
    (v : StackView) : a.captured v ≠ .error .firstFrame := by
  intro h
  obtain ⟨b, unreadable⟩ := unreadable_of_captured recorded h
  cases unreadable

namespace Frame

variable {f : Frame} {ctx : WalkContext} {options : WalkOptions} {v : StackView}

/-! ## Frames that lead to no anchor -/

theorem avoids_addressAt (a : Word) (k : Int) : Avoids (addressAt a k) .firstFrame :=
  avoids_orError _ FrameError.noConfusion

theorem avoids_wordAt (a : Word) (k : Int) : Avoids (wordAt a k) .firstFrame :=
  avoids_bind (avoids_of_ok fun _ => rfl) fun _ => avoids_orError _ FrameError.noConfusion

theorem avoids_frameWith (ctx : WalkContext) (sp unextendedSp fp pc : Word) :
    Avoids (ctx.frameWith sp unextendedSp fp pc) .firstFrame := avoids_of_ok fun _ => rfl

theorem avoids_callerBehind (pc sp : Word) {build : Word × Word → Inspection Frame}
    (h : ∀ x, Avoids (build x) .firstFrame) :
    Avoids (f.callerBehind ctx options pc sp build) .firstFrame := by
  apply avoids_bind (avoids_of_ok fun _ => congrArg Prod.fst (parkedTopBehind_ending pc))
  intro top
  cases top with
  | some top => exact avoids_of_ok fun _ => rfl
  | none =>
      exact avoids_bind (avoids_of_ok fun _ => congrArg Prod.fst (behindBarrier_ending pc sp)) h

theorem avoids_interpretedCaller : Avoids (f.interpretedCaller ctx options) .firstFrame := by
  apply avoids_bind (avoids_addressAt _ _)
  intro sp
  apply avoids_bind (avoids_wordAt _ _)
  intro unextendedSp
  apply avoids_bind (avoids_wordAt _ _)
  intro fp
  apply avoids_bind (avoids_wordAt _ _)
  intro pc
  exact avoids_callerBehind pc unextendedSp fun _ => avoids_frameWith _ _ _ _ _

theorem avoids_compiledCaller : Avoids (f.compiledCaller ctx options) .firstFrame := by
  apply avoids_bind (avoids_orError _ FrameError.noConfusion)
  intro r
  apply avoids_bind (avoids_require _ _)
  intro _
  apply avoids_bind (avoids_addressAt _ _)
  intro sp
  apply avoids_bind (avoids_wordAt _ _)
  intro pc
  apply avoids_bind (avoids_wordAt _ _)
  intro fp
  exact avoids_callerBehind pc sp fun _ => avoids_frameWith _ _ _ _ _

theorem avoids_nativeCaller : Avoids (f.nativeCaller ctx) .firstFrame := by
  apply avoids_bind (avoids_addressAt _ _)
  intro sp
  apply avoids_bind (avoids_wordAt _ _)
  intro fp
  apply avoids_bind (avoids_wordAt _ _)
  intro pc
  exact avoids_frameWith _ _ _ _ _

/-! ## Frames that lead to an anchor -/

theorem anchorAbove_ne_firstFrame (start offset : Word) (v : StackView) :
    anchorAbove start offset v ≠ .error .firstFrame := by
  rw [anchorAbove]
  split
  · simp
  · split <;> simp

theorem entryAnchor_ne_firstFrame (f : Frame) (layout : EntryLayout) (v : StackView) :
    f.entryAnchor layout v ≠ .error .firstFrame := by
  rw [entryAnchor]
  split
  · exact anchorAbove_ne_firstFrame _ _ v
  · simp

theorem upcallAnchor_ne_firstFrame (f : Frame) (v : StackView) :
    f.upcallAnchor v ≠ .error .firstFrame := by
  rw [upcallAnchor]
  split
  · simp
  · split
    · simp
    · exact anchorAbove_ne_firstFrame _ _ v

/-- The caller is not looked for in an anchor that records nothing. -/
theorem anchored_of_empty {x : Except FrameError AnchorSite} (h : anchorIsEmpty x = true) :
    f.anchored ctx v x = (.error (.error .firstFrame), v) := by
  cases x with
  | error e => cases h
  | ok site =>
      change (!site.anchor.hasLastFrame) = true at h
      rw [anchored, callerFromAnchor_ending, if_pos h]

/-- Nor is there any other reason to answer that there is none. -/
theorem anchorIsEmpty_of_anchored {x : Except FrameError AnchorSite}
    (present : x ≠ .error .firstFrame)
    (h : (f.anchored ctx v x).1 = .error (.error .firstFrame)) : anchorIsEmpty x = true := by
  cases x with
  | error e =>
      cases h
      exact absurd rfl present
  | ok site =>
      rw [anchored, callerFromAnchor_ending] at h
      cases recorded : site.anchor.hasLastFrame with
      | false => simp [anchorIsEmpty, recorded]
      | true =>
          rw [recorded, Bool.not_true, if_neg Bool.false_ne_true] at h
          split at h
          · cases h
          · split at h
            · next e failed =>
              cases h
              exact absurd failed (Anchor.captured_ne_firstFrame recorded v)
            · rw [recordedCaller] at h
              split at h <;> cases h

/-! ## All frames -/

/-- Of the oldest managed frame the caller is not computed, and nothing is written. -/
theorem caller_ending_of_isFirst (h : f.isFirst ctx.layout v = true) :
    (f.caller ctx options).ending v = (.error (.error .firstFrame), v) := by
  cases hk : f.kind with
  | entry =>
      rw [isFirst, hk] at h
      rw [caller_ending_of_entry hk]
      exact anchored_of_empty h
  | upcall =>
      rw [isFirst, hk] at h
      rw [caller_ending_of_upcall hk]
      exact anchored_of_empty h
  | interpreted | compiled | native =>
      rw [isFirst, hk] at h
      cases h

/-- No other frame gives this answer. -/
theorem isFirst_of_caller
    (h : ((f.caller ctx options).ending v).1 = .error (.error .firstFrame)) :
    f.isFirst ctx.layout v = true := by
  cases hk : f.kind with
  | entry =>
      rw [caller_ending_of_entry hk] at h
      rw [isFirst, hk]
      exact anchorIsEmpty_of_anchored (f.entryAnchor_ne_firstFrame ctx.layout v) h
  | upcall =>
      rw [caller_ending_of_upcall hk] at h
      rw [isFirst, hk]
      exact anchorIsEmpty_of_anchored (f.upcallAnchor_ne_firstFrame v) h
  | interpreted =>
      rw [caller, hk] at h
      exact absurd h (avoids_interpretedCaller v)
  | compiled =>
      rw [caller, hk] at h
      exact absurd h (avoids_compiledCaller v)
  | native =>
      rw [caller, hk] at h
      exact absurd h (avoids_nativeCaller v)

/-- An entry frame that is safe is not the oldest one: its anchor records a frame above it. -/
theorem verdict_of_isFirst (built : f.IsBuiltIn ctx) (entry : f.kind = .entry)
    (h : f.isFirst ctx.layout v = true) : f.verdict ctx v = false := by
  refine Bool.eq_false_iff.2 fun safe => ?_
  obtain ⟨site, anchored, above⟩ := anchor_of_verdict built entry safe
  have recorded : site.anchor.hasLastFrame = true := decide_eq_true (Word.ne_zero_of_lt above)
  rw [isFirst, entry] at h
  change anchorIsEmpty (f.entryAnchor ctx.layout v) = true at h
  rw [anchored, anchorIsEmpty, recorded] at h
  cases h

/-- A frame is the oldest managed one exactly if computing its caller answers that there is no
managed caller. Then no word is changed, and a frame of the call stub does not pass the safety
check. -/
theorem isFirst_iff_caller_firstFrame (built : f.IsBuiltIn ctx) (options : WalkOptions)
    (v : StackView) :
    (f.isFirst ctx.layout v = true ↔
        ((f.caller ctx options).run v).result = .error (.error .firstFrame)) ∧
      (f.isFirst ctx.layout v = true →
        ((f.caller ctx options).run v).stack = v ∧
          (f.kind = .entry → ((f.callerIsSafe ctx).run v).result = .ok false)) := by
  refine ⟨⟨fun h => ?_, isFirst_of_caller⟩, fun h => ⟨?_, fun entry => ?_⟩⟩
  · exact congrArg Prod.fst (caller_ending_of_isFirst h)
  · exact congrArg Prod.snd (caller_ending_of_isFirst h)
  · exact callerIsSafe_eq_false_iff.2 (verdict_of_isFirst built entry h)

end Frame

/-- The anchor behind the frame of the call stub records nothing. -/
theorem ThreeFrames.caller_of_oldest :
    oldest.IsBuiltIn context ∧ oldest.isFirst context.layout view = true ∧
      ((oldest.caller context ⟨false⟩).run view).result = .error (.error .firstFrame) ∧
        ((oldest.caller context ⟨false⟩).run view).stack = view ∧
          ((oldest.callerIsSafe context).run view).result = .ok false := by
  have built : oldest.IsBuiltIn context := context.frameOn_isBuiltIn ..
  have first : oldest.isFirst context.layout view = true := rfl
  obtain ⟨answer, effects⟩ := Frame.isFirst_iff_caller_firstFrame built ⟨false⟩ view
  obtain ⟨unchanged, unsafeCaller⟩ := effects first
  exact ⟨built, first, answer.1 first, unchanged, unsafeCaller rfl⟩

end StackWalk
