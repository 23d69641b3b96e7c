import StackWalk.Proofs.Frame.Built
import StackWalk.Frame.Caller

/-!
# Callers recorded in anchors

The caller of an entry frame is the frame that its anchor records. `callerFromAnchor_ending`
lists the ways in which computing it ends: two answers and two violations besides the
frame. A violation is raised exactly if the anchor is stale, that is, if it records a frame
that is not above the entry frame, or one whose pc is captured as zero
(`callerFromAnchor_of_stale`, `callerFromAnchor_of_not_stale`).
-/

set_option autoImplicit false

namespace StackWalk

open Inspection

theorem StackView.putAt_bounds (v : StackView) (a : Word) (k : Int) (value : Word) :
    (v.putAt a k value).bounds = v.bounds := by
  rw [putAt]
  cases h : v.writeAt? a k value with
  | none => rfl
  | some w =>
      rw [writeAt?] at h
      obtain ⟨b, -, hb⟩ := Option.bind_eq_some_iff.1 h
      exact (bounds_of_write? hb).1

theorem AnchorSite.put_bounds (site : AnchorSite) (a : Anchor) (v : StackView) :
    (site.put a v).bounds = v.bounds := by
  rw [put, StackView.putAt_bounds, StackView.putAt_bounds, StackView.putAt_bounds]

namespace Anchor

theorem returnPcBelow_eq_ok_iff {v : StackView} {sp p : Word} :
    returnPcBelow v sp = .ok p ↔ ∃ slot, sp.below? = some slot ∧ v.read? slot = some p := by
  rw [returnPcBelow]
  cases sp.below? with
  | none => simp
  | some slot => cases h : v.read? slot <;> simp [h]

/-- The anchor with its pc known, captured from the memory if it was not. -/
def captured (a : Anchor) (v : StackView) : Except FrameError Anchor :=
  if a.isWalkable then .ok a
  else if a.hasLastFrame then (returnPcBelow v a.lastSp).map fun pc => { a with lastPc := pc }
  else .error .firstFrame

theorem ensureWalkable_ending (a : Anchor) (v : StackView) :
    a.ensureWalkable.ending v = ((a.captured v).mapError .error, v) := by
  rw [ensureWalkable, captured]
  cases a.isWalkable with
  | true => rfl
  | false =>
      cases a.hasLastFrame with
      | false => rfl
      | true =>
          rw [if_neg Bool.false_ne_true, if_neg Bool.false_ne_true, if_pos rfl,
            ending_bind_ok (ending_ensure true _ v), ending_bind_ok (ending_stack v)]
          cases returnPcBelow v a.lastSp with
          | error e => rfl
          | ok pc => rfl

/-- What capturing the pc of a record answers. -/
theorem captured_of_hasLastFrame {a : Anchor} (h : a.hasLastFrame = true) (v : StackView) :
    a.captured v =
      if a.lastPc ≠ 0 then .ok a
      else (returnPcBelow v a.lastSp).map fun pc => { a with lastPc := pc } := by
  rw [captured, h, if_pos rfl, isWalkable]
  by_cases h0 : a.lastPc = 0
  · simp [h0]
  · simp [h0]

/-- The pc of an anchor is known, or it is that of a record and is read below its stack pointer. -/
theorem captured_eq_ok_iff {a b : Anchor} {v : StackView} :
    a.captured v = .ok b ↔
      a.isWalkable = true ∧ a = b ∨
        a.isWalkable = false ∧ a.hasLastFrame = true ∧
          ∃ p, returnPcBelow v a.lastSp = .ok p ∧ { a with lastPc := p } = b := by
  rw [captured]
  cases a.isWalkable with
  | true => simp
  | false =>
      cases a.hasLastFrame with
      | false => simp
      | true => cases returnPcBelow v a.lastSp <;> simp [Except.map]

/-- Capturing changes nothing but the pc. -/
theorem eq_of_captured {a b : Anchor} {v : StackView} (h : a.captured v = .ok b) :
    b = { a with lastPc := b.lastPc } := by
  rcases captured_eq_ok_iff.1 h with ⟨-, rfl⟩ | ⟨-, -, p, -, rfl⟩
  · rfl
  · rfl

/-- The anchor `b` is `a` with its pc, which was zero, set to the word below its stack
pointer, which is not. -/
def CapturesTo (a : Anchor) (v : StackView) (b : Anchor) : Prop :=
  a.lastPc = 0 ∧ ∃ p, p ≠ 0 ∧ returnPcBelow v a.lastSp = .ok p ∧ b = { a with lastPc := p }

/-- Capturing the pc changes the anchor if there is a pc to be found, and not otherwise. -/
theorem eq_or_capturesTo_of_captured {a b : Anchor} {v : StackView}
    (h : a.captured v = .ok b) : b = a ∨ a.CapturesTo v b := by
  rcases captured_eq_ok_iff.1 h with ⟨-, rfl⟩ | ⟨unknown, -, p, word, rfl⟩
  · exact Or.inl rfl
  · have zero : a.lastPc = 0 := by simpa [isWalkable] using unknown
    by_cases null : p = 0
    · left
      rw [null, ← zero]
    · exact Or.inr ⟨zero, p, null, word, rfl⟩

/-- Capturing the pc does not move the recorded frame. -/
theorem lastSp_of_captured {a b : Anchor} {v : StackView} (h : a.captured v = .ok b) :
    b.lastSp = a.lastSp := by
  rw [eq_of_captured h]

/-- The anchor records a frame that cannot be the caller of one at `sp`: it is not above
that frame, or the pc captured for it is zero. -/
def IsStale (a : Anchor) (sp : Word) (v : StackView) : Prop :=
  a.hasLastFrame = true ∧
    (a.lastSp ≤ sp ∨ a.lastPc = 0 ∧ returnPcBelow v a.lastSp = .ok 0)

/-- An anchor that is not stale has a pc once it is captured. -/
theorem isWalkable_of_captured {a b : Anchor} {sp : Word} {v : StackView}
    (recorded : a.hasLastFrame = true) (fresh : ¬ a.IsStale sp v) (h : a.captured v = .ok b) :
    b.isWalkable = true := by
  rcases captured_eq_ok_iff.1 h with ⟨known, rfl⟩ | ⟨unknown, -, p, word, rfl⟩
  · exact known
  · have zero : a.lastPc = 0 := by simpa [isWalkable] using unknown
    -- a pc that is captured as zero makes the anchor stale
    refine decide_eq_true fun null => fresh ⟨recorded, Or.inr ⟨zero, ?_⟩⟩
    rw [word, ← null]

end Anchor

namespace Frame

variable {f : Frame} {ctx : WalkContext} {site : AnchorSite} {v : StackView}

/-- What following an anchor comes to once its pc is known: the anchor is stored, and the
frame that it records is built. -/
def recordedCaller (ctx : WalkContext) (site : AnchorSite) (a : Anchor) (v : StackView) :
    Except Failure Frame × StackView :=
  (if a.isWalkable then .ok (ctx.frameOn (site.put a v) a.lastSp a.lastSp a.lastFp a.lastPc)
    else .error (.violation .anchorNotWalkable), site.put a v)

/-- The ways in which following an anchor ends. -/
theorem callerFromAnchor_ending (f : Frame) (ctx : WalkContext) (site : AnchorSite)
    (v : StackView) :
    (f.callerFromAnchor ctx site).ending v =
      if !site.anchor.hasLastFrame then (.error (.error .firstFrame), v)
      else if site.anchor.lastSp ≤ f.sp then (.error (.violation .anchorNotAbove), v)
      else
        match site.anchor.captured v with
        | .error e => (.error (.error e), v)
        | .ok a => recordedCaller ctx site a v := by
  rw [callerFromAnchor]
  -- the tests come in this order, and each failed one ends the computation
  cases hl : site.anchor.hasLastFrame with
  | false => rfl
  | true =>
      rw [ending_bind_ok (ending_ensure true _ v), Bool.not_true, if_neg Bool.false_ne_true]
      by_cases hsp : site.anchor.lastSp ≤ f.sp
      · rw [if_pos hsp, decide_eq_false (UInt64.not_lt.2 hsp)]
        rfl
      · rw [if_neg hsp, decide_eq_true (UInt64.not_le.1 hsp),
          ending_bind_ok (ending_require true _ v)]
        rw [ending_bind, Anchor.ensureWalkable_ending]
        cases site.anchor.captured v with
        | error e => rfl
        | ok a =>
            -- the anchor is stored before its pc is tested
            show (require a.isWalkable .anchorNotWalkable >>= fun _ =>
              ctx.frameAt a.lastSp a.lastFp a.lastPc).ending (site.put a v) =
                recordedCaller ctx site a v
            rw [recordedCaller]
            cases a.isWalkable with
            | false => rfl
            | true => rfl

/-- Following an anchor finds a caller exactly if the anchor records a frame further up whose pc
is known or can be captured. -/
theorem callerFromAnchor_ending_eq_ok_iff {s : Frame} {w : StackView} :
    (f.callerFromAnchor ctx site).ending v = (.ok s, w) ↔
      site.anchor.hasLastFrame = true ∧ f.sp < site.anchor.lastSp ∧
        ∃ a, site.anchor.captured v = .ok a ∧ a.isWalkable = true ∧ w = site.put a v ∧
          s = ctx.frameOn (site.put a v) a.lastSp a.lastSp a.lastFp a.lastPc := by
  rw [callerFromAnchor_ending, ← UInt64.not_le]
  cases site.anchor.hasLastFrame with
  | false => simp
  | true =>
      by_cases below : site.anchor.lastSp ≤ f.sp
      · simp [below]
      · cases site.anchor.captured v with
        | error e => simp [below]
        | ok a =>
            cases ha : a.isWalkable with
            | false => simp [below, recordedCaller, ha]
            | true =>
                simp only [Bool.not_true, Bool.false_eq_true, if_false, below, recordedCaller, ha,
                  if_true, Prod.mk.injEq, Except.ok.injEq, not_false_eq_true, true_and]
                constructor
                · rintro ⟨rfl, rfl⟩
                  exact ⟨a, rfl, ha, rfl, rfl⟩
                · rintro ⟨-, rfl, -, rfl, rfl⟩
                  exact ⟨rfl, rfl⟩

/-- The recorded caller is above the frame. -/
theorem sp_lt_of_callerFromAnchor {s : Frame} {w : StackView}
    (h : (f.callerFromAnchor ctx site).ending v = (.ok s, w)) : f.sp < s.sp := by
  obtain ⟨-, above, a, ha, -, -, rfl⟩ := callerFromAnchor_ending_eq_ok_iff.1 h
  -- capturing the pc has not moved the frame that was tested
  rw [WalkContext.frameOn_sp, Anchor.lastSp_of_captured ha]
  exact above

/-- Following an anchor keeps the bounds of the stack. -/
theorem callerFromAnchor_bounds (f : Frame) (ctx : WalkContext) (site : AnchorSite)
    (v : StackView) : ((f.callerFromAnchor ctx site).ending v).2.bounds = v.bounds := by
  rw [callerFromAnchor_ending]
  split
  · rfl
  · split
    · rfl
    · split
      · rfl
      · exact site.put_bounds _ v

/-- A stale anchor breaks the rules of use. -/
theorem callerFromAnchor_of_stale (h : site.anchor.IsStale f.sp v) (ctx : WalkContext) :
    ∃ e, ((f.callerFromAnchor ctx site).ending v).1 = .error (.violation e) := by
  obtain ⟨recorded, h⟩ := h
  rw [callerFromAnchor_ending, recorded, Bool.not_true, if_neg Bool.false_ne_true]
  by_cases hsp : site.anchor.lastSp ≤ f.sp
  · rw [if_pos hsp]
    exact ⟨_, rfl⟩
  · obtain ⟨h0, hpc⟩ := h.resolve_left hsp
    rw [if_neg hsp, Anchor.captured_of_hasLastFrame recorded, if_neg (not_not_intro h0), hpc]
    exact ⟨_, rfl⟩

/-- Any other anchor gives an answer: an error or a frame above. -/
theorem callerFromAnchor_of_not_stale (h : ¬ site.anchor.IsStale f.sp v) (ctx : WalkContext) :
    (∃ e, ((f.callerFromAnchor ctx site).ending v).1 = .error (.error e)) ∨
      ∃ s, ((f.callerFromAnchor ctx site).ending v).1 = .ok s ∧ f.sp < s.sp := by
  cases hl : site.anchor.hasLastFrame with
  | false =>
      rw [callerFromAnchor_ending, hl]
      exact Or.inl ⟨_, rfl⟩
  | true =>
      have above : ¬ site.anchor.lastSp ≤ f.sp := fun hsp => h ⟨hl, Or.inl hsp⟩
      rw [callerFromAnchor_ending, hl, Bool.not_true, if_neg Bool.false_ne_true, if_neg above]
      cases hc : site.anchor.captured v with
      | error e => exact Or.inl ⟨e, rfl⟩
      | ok a =>
          have walkable := Anchor.isWalkable_of_captured hl h hc
          refine Or.inr ⟨ctx.frameOn (site.put a v) a.lastSp a.lastSp a.lastFp a.lastPc, ?_, ?_⟩
          · show (recordedCaller ctx site a v).1 = _
            rw [recordedCaller, if_pos walkable]
          · rw [WalkContext.frameOn_sp, Anchor.lastSp_of_captured hc]
            exact UInt64.not_le.1 above

/-! ## Callers of both kinds of entry frames -/

/-- What computing the caller comes to if `x` is the anchor that was looked for. -/
def anchored (f : Frame) (ctx : WalkContext) (v : StackView) :
    Except FrameError AnchorSite → Except Failure Frame × StackView
  | .ok site => (f.callerFromAnchor ctx site).ending v
  | .error e => (.error (.error e), v)

theorem caller_ending_of_entry (h : f.kind = .entry) (ctx : WalkContext)
    (options : WalkOptions) (v : StackView) :
    (f.caller ctx options).ending v = f.anchored ctx v (f.entryAnchor ctx.layout v) := by
  rw [caller, h]
  show (stack >>= fun u => liftM (f.entryAnchor ctx.layout u) >>= f.callerFromAnchor ctx).ending v
    = _
  rw [ending_bind_ok (ending_stack v), ending_bind, ending_liftError]
  cases f.entryAnchor ctx.layout v <;> rfl

theorem caller_ending_of_upcall (h : f.kind = .upcall) (ctx : WalkContext)
    (options : WalkOptions) (v : StackView) :
    (f.caller ctx options).ending v = f.anchored ctx v (f.upcallAnchor v) := by
  rw [caller, h]
  show (stack >>= fun u => liftM (f.upcallAnchor u) >>= f.callerFromAnchor ctx).ending v = _
  rw [ending_bind_ok (ending_stack v), ending_bind, ending_liftError]
  cases f.upcallAnchor v <;> rfl

theorem anchored_bounds (f : Frame) (ctx : WalkContext) (v : StackView)
    (x : Except FrameError AnchorSite) : (f.anchored ctx v x).2.bounds = v.bounds := by
  cases x with
  | error e => rfl
  | ok site => exact f.callerFromAnchor_bounds ctx site v

theorem sp_lt_of_anchored {x : Except FrameError AnchorSite} {s : Frame} {w : StackView}
    (h : f.anchored ctx v x = (.ok s, w)) : f.sp < s.sp := by
  cases x with
  | error e => cases h
  | ok site => exact sp_lt_of_callerFromAnchor h

end Frame

end StackWalk
