import StackWalk.Proofs.Safety.Managed
import StackWalk.Proofs.Stack.Write

/-!
# Safe frames of the call stub

The safety check makes sure that the anchor in the call wrapper of an entry frame records a
frame above the entry frame. If that anchor already has its pc, the recorded frame is the
caller. If it does not, the pc is read from below the recorded stack pointer, which nobody
has checked: the word there may not be readable, which is an error, and it may be zero,
which breaks a rule of use. No other safe entry frame fails
(`followsAnchor_of_safe_entry_iff`), but some do fail so
(`LateCapture.caller_of_safe_entry_fails`).
-/

set_option autoImplicit false

namespace StackWalk

open Inspection

namespace Anchor

/-- The pc of the anchor has yet to be captured, and it would be captured as zero. -/
def AwaitsNull (a : Anchor) (v : StackView) : Prop :=
  a.lastPc = 0 ∧ returnPcBelow v a.lastSp = .ok 0

/-- The only way in which a return address cannot be had is that it cannot be read. -/
theorem unreadable_of_returnPcBelow {v : StackView} {sp : Word} {e : FrameError}
    (h : returnPcBelow v sp = .error e) : ∃ a, e = .unreadable a := by
  rw [returnPcBelow] at h
  split at h
  · cases h
    exact ⟨_, rfl⟩
  · split at h
    · cases h
    · cases h
      exact ⟨_, rfl⟩

/-- A record that cannot be captured is one whose return address cannot be read. -/
theorem unreadable_of_captured {a : Anchor} {v : StackView} {e : FrameError}
    (recorded : a.hasLastFrame = true) (h : a.captured v = .error e) :
    ∃ b, e = .unreadable b := by
  rw [captured_of_hasLastFrame recorded] at h
  split at h
  · cases h
  · cases hp : returnPcBelow v a.lastSp with
    | error e' =>
        rw [hp] at h
        cases h
        exact unreadable_of_returnPcBelow hp
    | ok pc =>
        rw [hp] at h
        cases h

/-- Below a recorded frame further up, an anchor is stale only for want of a pc. -/
theorem isStale_iff_of_lt {a : Anchor} {sp : Word} {v : StackView} (above : sp < a.lastSp) :
    a.IsStale sp v ↔ a.AwaitsNull v := by
  constructor
  · rintro ⟨-, below | null⟩
    · exact absurd above (UInt64.not_lt.2 below)
    · exact null
  · exact fun null => ⟨decide_eq_true (Word.ne_zero_of_lt above), Or.inr null⟩

end Anchor

namespace Frame

variable {f : Frame} {ctx : WalkContext} {options : WalkOptions} {v : StackView}
  {site : AnchorSite}

theorem load?_of_anchorAbove {start offset : Word}
    (h : anchorAbove start offset v = .ok site) :
    AnchorSite.load? v site.address = some site := by
  rw [anchorAbove] at h
  split at h
  · cases h
  · split at h
    · next address _ loaded hl =>
      cases h
      rw [(AnchorSite.load?_eq_some_iff.1 hl).1, hl]
    · cases h

theorem load?_of_entryAnchor {layout : EntryLayout} (h : f.entryAnchor layout v = .ok site) :
    AnchorSite.load? v site.address = some site := by
  rw [entryAnchor] at h
  split at h
  · exact load?_of_anchorAbove h
  · cases h

/-- A valid entry frame has its wrapper above it, and a frame above itself in the anchor. -/
theorem isEntryValid_iff {layout : EntryLayout} :
    f.isEntryValid layout v = true ↔
      ∃ wrapper site, f.callWrapper? layout v = some wrapper ∧
        v.bounds.isAbove f.fp wrapper = true ∧ f.entryAnchor layout v = .ok site ∧
          f.sp < site.anchor.lastSp := by
  rw [isEntryValid]
  cases hw : f.callWrapper? layout v with
  | none => simp
  | some wrapper =>
      cases ha : f.entryAnchor layout v with
      | error e => simp
      | ok site => simp

/-- An entry frame passes the check only with an anchor that records a frame above it. -/
theorem anchor_of_verdict (built : f.IsBuiltIn ctx) (entry : f.kind = .entry)
    (h : f.verdict ctx v = true) :
    ∃ site, f.entryAnchor ctx.layout v = .ok site ∧ f.sp < site.anchor.lastSp := by
  obtain ⟨r, hr⟩ := built.exists_region (by simp [entry])
  obtain ⟨-, -, -, valid⟩ := (verdict_entry_iff hr entry).1 h
  obtain ⟨-, site, -, -, anchored, above⟩ := isEntryValid_iff.1 valid
  exact ⟨site, anchored, above⟩

/-- The caller of the frame is looked for in the anchor at `site`. Either the return address
to be captured cannot be read, and nothing has changed, or the caller is the frame that the
anchor records, with a pc that the anchor has from then on. -/
inductive FollowsAnchor (f : Frame) (ctx : WalkContext) (options : WalkOptions)
    (v : StackView) (site : AnchorSite) : Prop
  | unreadable {a : Word}
      (failed : ((f.caller ctx options).run v).result = .error (.error (.unreadable a)))
      (unchanged : ((f.caller ctx options).run v).stack = v)
  | found {s : Frame} {after : AnchorSite}
      (computed : ((f.caller ctx options).run v).result = .ok s)
      (recorded : s.sp = site.anchor.lastSp) (above : f.sp < s.sp) (running : s.rawPc ≠ 0)
      (stored : AnchorSite.load? ((f.caller ctx options).run v).stack site.address = some after)
      (captured : after.anchor = { site.anchor with lastPc := s.rawPc })
      (walkable : after.anchor.isWalkable = true)

theorem followsAnchor_of_not_awaitsNull (entry : f.kind = .entry)
    (anchored : f.entryAnchor ctx.layout v = .ok site) (above : f.sp < site.anchor.lastSp)
    (sound : ¬ site.anchor.AwaitsNull v) : f.FollowsAnchor ctx options v site := by
  have recorded : site.anchor.hasLastFrame = true :=
    decide_eq_true (Word.ne_zero_of_lt above)
  have ends := caller_ending_of_entry entry ctx options v
  rw [anchored, Frame.anchored, callerFromAnchor_ending, recorded, Bool.not_true,
    if_neg Bool.false_ne_true, if_neg (UInt64.not_le.2 above)] at ends
  cases hc : site.anchor.captured v with
  | error e =>
      rw [hc] at ends
      obtain ⟨b, rfl⟩ := Anchor.unreadable_of_captured recorded hc
      exact .unreadable (congrArg Prod.fst ends) (congrArg Prod.snd ends)
  | ok a =>
      have walkable := Anchor.isWalkable_of_captured recorded
        (mt (Anchor.isStale_iff_of_lt above).1 sound) hc
      have only := Anchor.eq_of_captured hc
      rw [hc] at ends
      change _ = recordedCaller ctx site a v at ends
      rw [recordedCaller, if_pos walkable] at ends
      have stored := AnchorSite.load?_put (load?_of_entryAnchor anchored) a
      have memory : ((f.caller ctx options).run v).stack = site.put a v :=
        congrArg Prod.snd ends
      rw [← memory] at stored
      refine .found (congrArg Prod.fst ends) (Anchor.lastSp_of_captured hc) ?_
        (of_decide_eq_true walkable) stored only walkable
      rw [WalkContext.frameOn_sp, Anchor.lastSp_of_captured hc]
      exact above

/-- A safe frame of the call stub leads to the frame that its anchor records, or to a return
address that cannot be read, unless the anchor awaits a null pc. -/
theorem followsAnchor_of_safe_entry_iff (built : f.IsBuiltIn ctx) (entry : f.kind = .entry)
    (safe : ((f.callerIsSafe ctx).run v).result = .ok true) :
    ∃ site, f.entryAnchor ctx.layout v = .ok site ∧
      (f.FollowsAnchor ctx options v site ↔ ¬ site.anchor.AwaitsNull v) := by
  obtain ⟨site, anchored, above⟩ :=
    anchor_of_verdict built entry (callerIsSafe_eq_true_iff.1 safe)
  refine ⟨site, anchored, ?_, followsAnchor_of_not_awaitsNull entry anchored above⟩
  intro follows null
  have stale := (Anchor.isStale_iff_of_lt above).2 null
  have ends := congrArg Prod.fst (caller_ending_of_entry entry ctx options v)
  change ((f.caller ctx options).run v).result = _ at ends
  rw [anchored, Frame.anchored] at ends
  -- a violation is neither an error nor a frame
  obtain ⟨e, he⟩ := callerFromAnchor_of_stale stale ctx
  cases follows with
  | unreadable failed => cases (ends.trans he).symm.trans failed
  | found computed => cases (ends.trans he).symm.trans computed

end Frame

/-! ## A pc that is still to be captured -/

namespace LateCapture

def context : WalkContext where
  code := (CodeMap.mk { CodeTable.empty with regions := [.ofCode 0 .callStub 0x4000 0x100] }
    []).classify
  metadata := .unknown
  continuations := none
  config := .standard
  isOwner := false

/-- The anchor in the call wrapper of the frame at `0x9000` records the frame at `0x9080`,
without its pc. The word below that frame is `below`. -/
def view (below : Word) : StackView where
  memory :=
    { low := 0x9000
      low_aligned := rfl
      block := ⟨#[
        -- the frame, with the address of its wrapper
        0, 0x9040, 0, 0, 0, 0, 0, 0,
        -- the wrapper and its anchor, and what lies above
        0, 0, 0, 0, 0x9080, 0, 0x9090, below, 0, 0, 0, 0]⟩ }
  bounds := ⟨0x90a0, 0x9000, 0⟩
  fits := of_decide_eq_true rfl

def frame : Frame := context.frameOn (view 0) 0x9000 0x9000 0x9038 0x4010

def anchor : AnchorSite := ⟨0x9060, 0x9080, 0, 0x9090⟩

/-- If the word is zero, the frame passes the safety check, yet computing its caller breaks a
rule of use. -/
theorem caller_of_safe_entry_fails :
    frame.IsBuiltIn context ∧ frame.kind = .entry ∧
      ((frame.callerIsSafe context).run (view 0)).result = .ok true ∧
        ((frame.caller context ⟨false⟩).run (view 0)).result =
          .error (.violation .anchorNotWalkable) :=
  ⟨context.frameOn_isBuiltIn .., rfl, rfl, rfl⟩

/-- If the word is a pc, the frame that the anchor records is the caller. -/
theorem followsAnchor_of_pc :
    frame.IsBuiltIn context ∧ frame.kind = .entry ∧
      ((frame.callerIsSafe context).run (view 0x5000)).result = .ok true ∧
        frame.FollowsAnchor context ⟨false⟩ (view 0x5000) anchor := by
  have built : frame.IsBuiltIn context := context.frameOn_isBuiltIn ..
  refine ⟨built, rfl, rfl, ?_⟩
  have follows : ∃ site, frame.entryAnchor context.layout (view 0x5000) = .ok site ∧
      (frame.FollowsAnchor context ⟨false⟩ (view 0x5000) site ↔
        ¬ site.anchor.AwaitsNull (view 0x5000)) :=
    Frame.followsAnchor_of_safe_entry_iff built rfl rfl
  obtain ⟨site, found, follows⟩ := follows
  -- the anchor that was found is the one in the wrapper
  cases found
  refine follows.2 fun null => ?_
  cases null.2

end LateCapture

end StackWalk
