import StackWalk.Proofs.Safety.Managed

/-!
# Behind the return barrier

The safety check follows a managed frame over the return barrier to the entry of the innermost
continuation around it, and judges what it finds there. A walk that goes past continuations
takes the same way. A walk that enters them goes on in the frame that the continuation has
parked. If it has parked none, the step ends on the barrier itself: at a frame whose pc is the
barrier, although the check had accepted the frame for what lies behind (`caller_over_barrier`,
`BottomFrame.caller_on_barrier`).

The null address counts as a return address and never as a barrier. A list of continuations
whose barrier is null therefore corrects nothing.
-/

set_option autoImplicit false

namespace StackWalk

open Inspection

/-- No continuation leads back to the barrier, neither through its entry nor through a parked
frame. -/
def ContinuationList.IsClearOfBarrier (cs : ContinuationList) : Prop :=
  ∀ c ∈ cs.mounted, c.entryPc ≠ cs.barrierPc ∧ ∀ top ∈ c.top, top.pc ≠ cs.barrierPc

namespace Frame

variable {f : Frame} {ctx : WalkContext} {v : StackView} {cs : ContinuationList}
  {e : Continuation}

/-- How a step from `f` over the barrier of `cs` ends, out of the continuation `e`: at `s`, and
at `d` if continuations are not entered. -/
structure LandsBehind (f s d : Frame) (ctx : WalkContext) (options : WalkOptions)
    (v : StackView) (cs : ContinuationList) (e : Continuation) : Prop where
  computed : ((f.caller ctx options).run v).result = .ok s
  past : ((f.caller ctx ⟨false⟩).run v).result = .ok d
  /-- The step ends on the barrier if it looks for a parked frame and finds none. -/
  onBarrier : s.rawPc = cs.barrierPc ↔
    cs.barrierPc = 0 ∨ options.entersContinuations = true ∧ e.top = none
  parked : cs.barrierPc ≠ 0 → options.entersContinuations = true →
    ∀ top ∈ e.top, s = ctx.frameOn v top.sp top.sp top.fp top.pc
  unparked : (options.entersContinuations = true → e.top = none) →
    (s = d ↔ cs.barrierPc = 0 ∨ options.entersContinuations = false)

/-! ## The caller of a managed frame -/

/-- The caller of a safe managed frame is the parked frame behind its return address, or the one
at the corrected registers. -/
theorem exists_managedCaller (built : f.IsBuiltIn ctx)
    (managed : f.kind = .interpreted ∨ f.kind = .compiled) (safe : f.verdict ctx v = true)
    {pc : Word} (returns : f.returnWord? v = some pc) :
    ∃ (sp : Word) (build : Word × Word → Frame), (∀ x, (build x).rawPc = x.1) ∧
      ∀ options, (f.caller ctx options).ending v =
        (.ok ((f.parkedFrame? ctx options v pc).getD
          (build (f.correctedReturn ctx options v pc sp))), v) := by
  rcases managed with hk | hk
  · obtain ⟨r, hr⟩ := built.exists_region (by simp [hk])
    obtain ⟨-, -, -, c, hc, -⟩ := (verdict_interpreted_iff hr hk).1 safe
    rw [returnWord?, hk] at returns
    cases (interpretedCandidate?_eq_some_iff.1 hc).1.symm.trans returns
    exact ⟨c.unextendedSp, fun x => ctx.frameOn v c.sp x.2 c.savedFp x.1, fun _ => rfl,
      interpretedCaller_ending hk hc ctx⟩
  · obtain ⟨r, hr⟩ := built.exists_region (by simp [hk])
    obtain ⟨-, -, c, hc, -⟩ := (verdict_compiled_iff hr hk).1 safe
    obtain ⟨framed, hsp, -, hpc, hfp, -⟩ := compiledCandidate?_eq_some_iff.1 hc
    simp only [returnWord?, hk, hr, hsp] at returns
    cases hpc.symm.trans returns
    exact ⟨c.sp, fun x => ctx.frameOn v x.2 x.2 c.savedFp x.1, fun _ => rfl,
      compiledCaller_ending hk hr framed hsp hpc hfp ctx⟩

section Ways

variable {pc sp : Word} {build : Word × Word → Frame}
  (ends : ∀ options, (f.caller ctx options).ending v =
    (.ok ((f.parkedFrame? ctx options v pc).getD
      (build (f.correctedReturn ctx options v pc sp))), v))

include ends

theorem caller_of_not_isBarrier (free : ctx.isBarrier pc = false) (options : WalkOptions) :
    ((f.caller ctx options).run v).result = .ok (build (pc, sp)) := by
  have h := congrArg Prod.fst (ends options)
  rw [parkedFrame?_of_goesPast fun _ => free, correctedReturn_of_goesPast fun _ => free,
    ctx.crossing_of_not_isBarrier free] at h
  exact h

theorem caller_past_barrier (barrier : ctx.isBarrier pc = true)
    (inside : ctx.around? f v = some e) :
    ((f.caller ctx ⟨false⟩).run v).result = .ok (build (e.entryPc, e.entrySp)) := by
  have h := congrArg Prod.fst (ends ⟨false⟩)
  rw [parkedFrame?_of_goesPast (goesPast ctx pc), correctedReturn_of_goesPast (goesPast ctx pc),
    WalkContext.crossing, if_pos barrier, inside] at h
  exact h

theorem caller_into_continuation (barrier : ctx.isBarrier pc = true)
    (inside : ctx.around? f v = some e) :
    ((f.caller ctx ⟨true⟩).run v).result =
      .ok ((e.top.map fun top => ctx.frameOn v top.sp top.sp top.fp top.pc).getD
        (build (pc, sp))) := by
  have h := congrArg Prod.fst (ends ⟨true⟩)
  rw [parkedFrame?, barrier, inside] at h
  exact h

end Ways

/-! ## Over the barrier -/

theorem isBarrier_barrierPc (mounted : ctx.continuations = some cs) :
    ctx.isBarrier cs.barrierPc = decide (cs.barrierPc ≠ 0) := by
  rw [WalkContext.isBarrier, mounted]
  show (decide (cs.barrierPc ≠ 0) && decide (cs.barrierPc = cs.barrierPc)) = _
  rw [decide_eq_true rfl, Bool.and_true]

theorem mem_of_around? (mounted : ctx.continuations = some cs)
    (inside : ctx.around? f v = some e) : e ∈ cs.mounted := by
  rw [WalkContext.around?, mounted] at inside
  exact List.mem_of_find?_eq_some inside

/-! ### The four ways over -/

section Lands

variable {s d : Frame}

/-- What is no barrier stops nobody: every walk finds the frame at the uncorrected pc. -/
theorem landsBehind_of_null (null : cs.barrierPc = 0) (onBarrier : s.rawPc = cs.barrierPc)
    (computed : ∀ options, ((f.caller ctx options).run v).result = .ok s)
    (options : WalkOptions) : f.LandsBehind s s ctx options v cs e where
  computed := computed options
  past := computed ⟨false⟩
  onBarrier := iff_of_true onBarrier (Or.inl null)
  parked := fun nonnull => absurd null nonnull
  unparked := fun _ => iff_of_true rfl (Or.inl null)

theorem landsBehind_past (nonnull : cs.barrierPc ≠ 0) (off : d.rawPc ≠ cs.barrierPc)
    (past : ((f.caller ctx ⟨false⟩).run v).result = .ok d) :
    f.LandsBehind d d ctx ⟨false⟩ v cs e where
  computed := past
  past := past
  onBarrier := by simp [nonnull, off]
  parked := fun _ enters => absurd enters Bool.false_ne_true
  unparked := fun _ => iff_of_true rfl (Or.inr rfl)

theorem landsBehind_parked {top : ParkedFrame} (nonnull : cs.barrierPc ≠ 0)
    (hasTop : e.top = some top) (off : top.pc ≠ cs.barrierPc)
    (past : ((f.caller ctx ⟨false⟩).run v).result = .ok d)
    (into : ((f.caller ctx ⟨true⟩).run v).result =
      .ok (ctx.frameOn v top.sp top.sp top.fp top.pc)) :
    f.LandsBehind (ctx.frameOn v top.sp top.sp top.fp top.pc) d ctx ⟨true⟩ v cs e where
  computed := into
  past := past
  onBarrier := by simp [nonnull, hasTop, off]
  parked := by simp [hasTop]
  unparked := by simp [hasTop]

/-- The frame on the barrier is not the one behind it. -/
theorem landsBehind_unparked (nonnull : cs.barrierPc ≠ 0) (noTop : e.top = none)
    (onBarrier : s.rawPc = cs.barrierPc) (off : d.rawPc ≠ cs.barrierPc)
    (past : ((f.caller ctx ⟨false⟩).run v).result = .ok d)
    (into : ((f.caller ctx ⟨true⟩).run v).result = .ok s) :
    f.LandsBehind s d ctx ⟨true⟩ v cs e where
  computed := into
  past := past
  onBarrier := iff_of_true onBarrier (Or.inr ⟨rfl, noTop⟩)
  parked := by simp [noTop]
  unparked := by
    have differ : s ≠ d := by
      rintro rfl
      exact off onBarrier
    simp [nonnull, differ]

end Lands

/-- If a safe managed frame returns to the barrier from inside a continuation, its caller is not
on the barrier, unless the walk looks for a parked frame where there is none. Such a walk finds
the parked frame, and where there is none it finds another frame than a walk that goes past. -/
theorem caller_over_barrier (built : f.IsBuiltIn ctx)
    (managed : f.kind = .interpreted ∨ f.kind = .compiled)
    (safe : ((f.callerIsSafe ctx).run v).result = .ok true)
    (mounted : ctx.continuations = some cs) (clear : cs.IsClearOfBarrier)
    (returns : f.returnWord? v = some cs.barrierPc) (inside : ctx.around? f v = some e)
    (options : WalkOptions) : ∃ s d, f.LandsBehind s d ctx options v cs e := by
  obtain ⟨sp, build, rawPc, ends⟩ :=
    exists_managedCaller built managed (callerIsSafe_eq_true_iff.1 safe) returns
  obtain ⟨entry, parked⟩ := clear e (mem_of_around? mounted inside)
  have barrier := isBarrier_barrierPc mounted
  -- a null barrier is never recognised, whatever the options are
  by_cases null : cs.barrierPc = 0
  · rw [decide_eq_false (not_not_intro null)] at barrier
    exact ⟨_, _, landsBehind_of_null null (rawPc _) (caller_of_not_isBarrier ends barrier) options⟩
  · rw [decide_eq_true null] at barrier
    have past := caller_past_barrier ends barrier inside
    have off : (build (e.entryPc, e.entrySp)).rawPc ≠ cs.barrierPc := by
      rw [rawPc]
      exact entry
    rcases options with ⟨_ | _⟩
    · exact ⟨_, _, landsBehind_past null off past⟩
    · have into := caller_into_continuation ends barrier inside
      cases hasTop : e.top with
      | some top =>
          rw [hasTop] at into
          exact ⟨_, _, landsBehind_parked null hasTop (parked top hasTop) past into⟩
      | none =>
          -- a walk that enters continuations does not correct the registers itself
          rw [hasTop] at into
          exact ⟨_, _, landsBehind_unparked null hasTop (rawPc _) off past into⟩

end Frame

/-! ## A compiled bottom frame

A compiled frame is the bottom one of a continuation, which was entered from the same code. -/

namespace BottomFrame

def mounted (top : Option ParkedFrame) : ContinuationList := ⟨0x7700, [⟨0x32040, 0x5010, top⟩]⟩

def context (top : Option ParkedFrame) : WalkContext where
  code := (CodeMap.mk { CodeTable.empty with
    regions := [{ CodeRegion.ofCode 0 (.compiled none) 0x5000 0x100 with frameSize := 4 }] }
    []).classify
  metadata := .unknown
  continuations := some (mounted top)
  config := .standard
  isOwner := false

/-- The frame takes the four lowest words; it ends with a saved frame pointer and the barrier. -/
def view : StackView where
  memory :=
    { low := 0x32000
      low_aligned := rfl
      block := ⟨#[0, 0, 0x32060, 0x7700, 0, 0, 0, 0, 0, 0, 0, 0, 0, 0, 0, 0]⟩ }
  bounds := ⟨0x32080, 0x32000, 0⟩
  fits := of_decide_eq_true rfl

def frame (top : Option ParkedFrame) : Frame := (context top).frameOn view 0x32000 0x32000 0 0x5000

theorem mounted_isClearOfBarrier {top : Option ParkedFrame} (h : ∀ p ∈ top, p.pc ≠ 0x7700) :
    (mounted top).IsClearOfBarrier := by
  intro c member
  cases List.mem_singleton.1 member
  constructor
  · show (0x5010 : Word) ≠ 0x7700
    decide
  · exact h

/-- Nothing is parked. A walk that goes past the continuation finds the entry, and one that wants
to enter it ends up on the barrier. -/
theorem caller_on_barrier :
    (frame none).IsBuiltIn (context none) ∧ (frame none).kind = .compiled ∧
      (((frame none).callerIsSafe (context none)).run view).result = .ok true ∧
        (context none).continuations = some (mounted none) ∧ (mounted none).IsClearOfBarrier ∧
          (frame none).returnWord? view = some 0x7700 ∧
            (context none).around? (frame none) view = some ⟨0x32040, 0x5010, none⟩ ∧
              (((frame none).caller (context none) ⟨false⟩).run view).result =
                  .ok ((context none).frameOn view 0x32040 0x32040 0x32060 0x5010) ∧
                ∃ s, (((frame none).caller (context none) ⟨true⟩).run view).result = .ok s ∧
                  s.rawPc = (mounted none).barrierPc :=
  ⟨(context none).frameOn_isBuiltIn .., rfl, rfl, rfl, mounted_isClearOfBarrier (by simp), rfl,
    rfl, rfl, _, rfl, rfl⟩

/-- The registers of a parked frame. -/
def top : ParkedFrame := ⟨0x32030, 0x32050, 0x5020⟩

/-- A walk that enters the continuation finds the parked frame, and stays off the barrier. -/
theorem landsBehind_of_parked :
    (frame top).IsBuiltIn (context top) ∧ ((frame top).kind = .interpreted ∨
        (frame top).kind = .compiled) ∧
      (((frame top).callerIsSafe (context top)).run view).result = .ok true ∧
        (context top).continuations = some (mounted top) ∧ (mounted top).IsClearOfBarrier ∧
          (frame top).returnWord? view = some (mounted top).barrierPc ∧
            (context top).around? (frame top) view = some ⟨0x32040, 0x5010, top⟩ ∧
              ∃ s d, (frame top).LandsBehind s d (context top) ⟨true⟩ view (mounted top)
                  ⟨0x32040, 0x5010, top⟩ ∧
                s = (context top).frameOn view 0x32030 0x32030 0x32050 0x5020 := by
  have built : (frame top).IsBuiltIn (context top) := (context top).frameOn_isBuiltIn ..
  have clear : (mounted top).IsClearOfBarrier := mounted_isClearOfBarrier (by decide)
  have safe : (((frame top).callerIsSafe (context top)).run view).result = .ok true := rfl
  refine ⟨built, Or.inr rfl, safe, rfl, clear, rfl, rfl, ?_⟩
  obtain ⟨s, d, lands⟩ :=
    Frame.caller_over_barrier built (Or.inr rfl) safe rfl clear rfl rfl ⟨true⟩
  exact ⟨s, d, lands, lands.parked (by decide) rfl top rfl⟩

end BottomFrame

end StackWalk
