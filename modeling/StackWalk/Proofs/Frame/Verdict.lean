import StackWalk.Proofs.Frame.Barrier
import StackWalk.Frame.Safety

/-!
# The safety check as a function of the memory

`Frame.callerIsSafe` looks up code on its way and is therefore an inspection. It always
has an answer and leaves the memory as it is: `verdict` computes the answer from the frame
and the memory alone (`callerIsSafe_ending`).

A managed frame that is accepted has a candidate for its caller, and the candidate found
behind the return barrier is accepted in one of three ways: as a plausible frame of the
interpreter, as a frame of the call stub with its wrapper, or as compiled code that may
call (`IsAccepted`, `verdict_interpreted_iff`, `verdict_compiled_iff`).
-/

set_option autoImplicit false

namespace StackWalk

open Inspection

namespace CallerCandidate

/-- The frame with the registers of the candidate. -/
def frame (c : CallerCandidate) (ctx : WalkContext) (v : StackView) : Frame :=
  ctx.frameOn v c.sp c.unextendedSp c.savedFp c.pc

/-- The candidate behind the return barrier. Only its pc and its stack pointer change. -/
def behind (c : CallerCandidate) (ctx : WalkContext) (callee : Frame) (v : StackView) :
    CallerCandidate :=
  { c with
    pc := (ctx.crossing callee v c.pc c.sp).1
    sp := (ctx.crossing callee v c.pc c.sp).2 }

/-- Away from barriers the candidate that is judged is the one that was read. -/
theorem behind_of_not_isBarrier {c : CallerCandidate} {ctx : WalkContext} {f : Frame}
    {v : StackView} (h : ctx.isBarrier c.pc = false) : c.behind ctx f v = c := by
  rw [behind, ctx.crossing_of_not_isBarrier h f v c.sp]

/-- The verdict on a candidate whose code is `r`. -/
def verdictIn (c : CallerCandidate) (ctx : WalkContext) (v : StackView) (r : CodeRegion) :
    Bool :=
  if r.isInterpreter then
    v.bounds.isAbove c.sp c.savedFp && (c.frame ctx v).isPlausible ctx v
  else if c.pc = 0 then false
  else
    (r.isAlive && r.contains c.pc && !r.isAdapter) &&
      if r.isCallStub then
        v.bounds.isAbove c.sp c.savedFp &&
          ((c.frame ctx v).callWrapper? ctx.layout v).any (v.bounds.isAbove c.savedFp)
      else Frame.mayCall r c.pc

/-- The verdict on a candidate. Unknown code is no caller. -/
def verdict (c : CallerCandidate) (ctx : WalkContext) (v : StackView) : Bool :=
  (ctx.code c.pc).any (c.verdictIn ctx v)

/-- The three ways in which a candidate is accepted. -/
inductive IsAccepted (c : CallerCandidate) (ctx : WalkContext) (v : StackView) : Prop
  | interpreter {r : CodeRegion} (code : ctx.code c.pc = some r)
      (interpreter : r.isInterpreter = true) (above : v.bounds.isAbove c.sp c.savedFp = true)
      (sensible : (c.frame ctx v).isPlausible ctx v = true)
  | callStub {r : CodeRegion} {wrapper : Word} (code : ctx.code c.pc = some r)
      (callStub : r.isCallStub = true) (alive : r.isAlive = true)
      (inside : r.contains c.pc = true) (nonzero : c.pc ≠ 0)
      (above : v.bounds.isAbove c.sp c.savedFp = true)
      (stored : (c.frame ctx v).callWrapper? ctx.layout v = some wrapper)
      (wrapped : v.bounds.isAbove c.savedFp wrapper = true)
  | compiled {r : CodeRegion} (code : ctx.code c.pc = some r) (compiled : r.isCompiled = true)
      (alive : r.isAlive = true) (inside : r.contains c.pc = true) (nonzero : c.pc ≠ 0)
      (framed : 0 < r.frameSize) (ordinary : r.isIntrinsic = false)
      (settled : r.isDeoptPc c.pc = false)

section Accepted

variable {c : CallerCandidate} {ctx : WalkContext} {v : StackView}

open CodeRegion in
theorem isAccepted_of_verdict (h : c.verdict ctx v = true) : c.IsAccepted ctx v := by
  obtain ⟨r, hr, h⟩ := (Option.any_eq_true _ _).1 h
  cases hk : r.kind with
  | interpreter =>
      have hi := isInterpreter_iff.2 hk
      rw [verdictIn, if_pos hi, Bool.and_eq_true] at h
      exact .interpreter hr hi h.1 h.2
  | callStub =>
      have hs := isCallStub_iff.2 hk
      by_cases h0 : c.pc = 0
      · simp [verdictIn, isInterpreter, hk, h0] at h
      · simp only [verdictIn, isInterpreter, hk, Bool.false_eq_true, if_false, h0, hs,
          if_true, Bool.and_eq_true] at h
        obtain ⟨⟨⟨hl, hc⟩, -⟩, ha, hw⟩ := h
        obtain ⟨w, hw, hwa⟩ := (Option.any_eq_true _ _).1 hw
        exact .callStub hr hs hl hc h0 ha hw hwa
  | compiled info =>
      have hs := isCompiled_iff.2 ⟨info, hk⟩
      by_cases h0 : c.pc = 0
      · simp [verdictIn, isInterpreter, hk, h0] at h
      · simp only [verdictIn, isInterpreter, isCallStub, Frame.mayCall, hk,
          Bool.false_eq_true, if_false, h0, Bool.and_eq_true, Bool.not_eq_true',
          decide_eq_true_eq] at h
        obtain ⟨⟨⟨hl, hc⟩, -⟩, ⟨⟨⟨-, hd⟩, hi⟩, hf⟩, -⟩ := h
        exact .compiled hr hs hl hc h0 hf hi hd
  -- no other code is ever accepted
  | runtimeStub =>
      simp [verdictIn, isInterpreter, isCallStub, isCompiled, Frame.mayCall, hk] at h
  | adapter => simp [verdictIn, isInterpreter, isAdapter, hk] at h
  | upcallStub offset =>
      simp [verdictIn, isInterpreter, isCallStub, isUpcallStub, Frame.mayCall, hk] at h

open CodeRegion in
theorem IsAccepted.verdict (h : c.IsAccepted ctx v) : c.verdict ctx v = true := by
  refine (Option.any_eq_true _ _).2 ?_
  cases h with
  | interpreter hr hi ha hp => exact ⟨_, hr, by simp [verdictIn, hi, ha, hp]⟩
  | callStub hr hs hl hc h0 ha hw hwa =>
      have hk := isCallStub_iff.1 hs
      refine ⟨_, hr, ?_⟩
      simp [verdictIn, isInterpreter, isAdapter, hs, hk, hl, hc, h0, ha, hw, hwa]
  | compiled hr hs hl hc h0 hf hi hd =>
      obtain ⟨info, hk⟩ := isCompiled_iff.1 hs
      refine ⟨_, hr, ?_⟩
      simp [verdictIn, isInterpreter, isAdapter, isCallStub, isUpcallStub, Frame.mayCall, hk,
        hl, hc, h0, hf, hi, hd, hs]

end Accepted

end CallerCandidate

namespace Frame

/-- The verdict on a candidate for the caller of `f`. -/
def managedVerdict (f : Frame) (ctx : WalkContext) (v : StackView) (c : CallerCandidate) :
    Bool :=
  (c.behind ctx f v).verdict ctx v

/-- The answer of the safety check, computed from the memory. -/
def verdict (f : Frame) (ctx : WalkContext) (v : StackView) : Bool :=
  f.stackPointersAreSafe v.bounds &&
    match f.region with
    | none => f.framePointerIsSafe v.bounds && (f.returnAddress? v).any (· ≠ 0)
    | some r =>
        f.pcIsSettled r &&
          match f.kind with
          | .entry => f.framePointerIsSafe v.bounds && f.isEntryValid ctx.layout v
          | .upcall => f.framePointerIsSafe v.bounds
          | .interpreted =>
              f.framePointerIsSafe v.bounds &&
                (f.interpretedCandidate? v).any (f.managedVerdict ctx v)
          | .compiled => (f.compiledCandidate? r v).any (f.managedVerdict ctx v)
          | .native => false

section Verdict

variable {f : Frame} {ctx : WalkContext} {v : StackView} {r : CodeRegion}

theorem stackPointersAreSafe_iff {b : StackBounds} :
    f.stackPointersAreSafe b = true ↔
      b.isValid = true ∧ b.usableFloor ≤ f.sp ∧ f.sp < b.base ∧ f.sp ≤ f.unextendedSp ∧
        f.unextendedSp ≤ b.base := by
  rw [stackPointersAreSafe, Bool.and_eq_true, StackBounds.isUsable_iff, StackBounds.isFrom_iff]
  constructor
  · rintro ⟨⟨valid, below, above⟩, bounded, extended⟩
    exact ⟨valid, above, below, extended, bounded⟩
  · rintro ⟨valid, above, below, extended, bounded⟩
    exact ⟨⟨valid, below, above⟩, bounded, extended⟩

theorem framePointerIsSafe_iff {b : StackBounds} :
    f.framePointerIsSafe b = true ↔
      f.sp < f.fp ∧ f.fp < b.base ∧
        ∃ a, f.fp.offset? FrameSlot.returnAddress = some a ∧ b.coversValid a = true := by
  rw [framePointerIsSafe, Bool.and_eq_true, StackBounds.isAbove_iff, Option.any_eq_true]
  constructor
  · rintro ⟨⟨below, above⟩, slot⟩
    exact ⟨above, below, slot⟩
  · rintro ⟨above, below, slot⟩
    exact ⟨⟨below, above⟩, slot⟩

theorem managedVerdict_eq_true_iff {c : CallerCandidate} :
    f.managedVerdict ctx v c = true ↔ (c.behind ctx f v).IsAccepted ctx v :=
  ⟨CallerCandidate.isAccepted_of_verdict, CallerCandidate.IsAccepted.verdict⟩

theorem stackPointersAreSafe_of_verdict (h : f.verdict ctx v = true) :
    f.stackPointersAreSafe v.bounds = true := by
  rw [verdict, Bool.and_eq_true] at h
  exact h.1

/-- Only the frame pointer of a compiled frame is not tested. -/
theorem framePointerIsSafe_of_verdict (h : f.verdict ctx v = true) (hk : f.kind ≠ .compiled) :
    f.framePointerIsSafe v.bounds = true := by
  rw [verdict, Bool.and_eq_true] at h
  cases hr : f.region with
  | none =>
      rw [hr, Bool.and_eq_true] at h
      exact h.2.1
  | some r =>
      rw [hr, Bool.and_eq_true] at h
      cases hkind : f.kind with
      | entry =>
          rw [hkind, Bool.and_eq_true] at h
          exact h.2.2.1
      | upcall =>
          rw [hkind] at h
          exact h.2.2
      | interpreted =>
          rw [hkind, Bool.and_eq_true] at h
          exact h.2.2.1
      | compiled => exact absurd hkind hk
      | native =>
          rw [hkind] at h
          exact Bool.noConfusion h.2.2

theorem verdict_entry_iff (hr : f.region = some r) (hk : f.kind = .entry) :
    f.verdict ctx v = true ↔
      f.stackPointersAreSafe v.bounds = true ∧ f.pcIsSettled r = true ∧
        f.framePointerIsSafe v.bounds = true ∧ f.isEntryValid ctx.layout v = true := by
  rw [verdict, hr, hk, Bool.and_eq_true, Bool.and_eq_true, Bool.and_eq_true]

theorem verdict_upcall_iff (hr : f.region = some r) (hk : f.kind = .upcall) :
    f.verdict ctx v = true ↔
      f.stackPointersAreSafe v.bounds = true ∧ f.pcIsSettled r = true ∧
        f.framePointerIsSafe v.bounds = true := by
  rw [verdict, hr, hk, Bool.and_eq_true, Bool.and_eq_true]

theorem verdict_native_iff (hr : f.region = none) :
    f.verdict ctx v = true ↔
      f.stackPointersAreSafe v.bounds = true ∧ f.framePointerIsSafe v.bounds = true ∧
        ∃ pc, f.returnAddress? v = some pc ∧ pc ≠ 0 := by
  rw [verdict, hr, Bool.and_eq_true, Bool.and_eq_true, Option.any_eq_true]
  simp only [decide_eq_true_eq]

theorem verdict_interpreted_iff (hr : f.region = some r) (hk : f.kind = .interpreted) :
    f.verdict ctx v = true ↔
      f.stackPointersAreSafe v.bounds = true ∧ f.pcIsSettled r = true ∧
        f.framePointerIsSafe v.bounds = true ∧
          ∃ c, f.interpretedCandidate? v = some c ∧ (c.behind ctx f v).IsAccepted ctx v := by
  rw [verdict, hr, hk, Bool.and_eq_true, Bool.and_eq_true, Bool.and_eq_true,
    Option.any_eq_true]
  simp only [managedVerdict_eq_true_iff]

theorem verdict_compiled_iff (hr : f.region = some r) (hk : f.kind = .compiled) :
    f.verdict ctx v = true ↔
      f.stackPointersAreSafe v.bounds = true ∧ f.pcIsSettled r = true ∧
        ∃ c, f.compiledCandidate? r v = some c ∧ (c.behind ctx f v).IsAccepted ctx v := by
  rw [verdict, hr, hk, Bool.and_eq_true, Bool.and_eq_true, Option.any_eq_true]
  simp only [managedVerdict_eq_true_iff]

end Verdict

/-- A test of the frame of a candidate, made only under a condition. -/
theorem guardedFrame_ending (ctx : WalkContext) (c : CallerCandidate) (b : Bool)
    (p : Frame → Bool) (v : StackView) :
    (if !b then (pure false : Inspection Bool) else do
      let caller ← ctx.frameWith c.sp c.unextendedSp c.savedFp c.pc
      pure (p caller)).ending v = (.ok (b && p (c.frame ctx v)), v) := by
  cases b <;> rfl

theorem candidateIsSafe_ending (ctx : WalkContext) (c : CallerCandidate) (v : StackView) :
    (candidateIsSafe ctx c).ending v = (.ok (c.verdict ctx v), v) := by
  rw [candidateIsSafe, ending_bind_ok (ending_stack v),
    ending_bind_ok (ctx.inInterpreter_ending c.pc v), CallerCandidate.verdict]
  cases hr : ctx.code c.pc with
  | none =>
      by_cases h0 : c.pc = 0
      · simp [h0]
      · simp [h0, hr, ending_bind]
  | some r =>
      -- the code is looked up anew for each question, with the same answer
      rw [Option.any_some, Option.any_some, CallerCandidate.verdictIn]
      cases hi : r.isInterpreter with
      | true => exact guardedFrame_ending ctx c _ _ v
      | false =>
          by_cases h0 : c.pc = 0
          · simp [h0]
          · simp only [Bool.false_eq_true, if_false, h0]
            rw [ending_bind_ok (ctx.lookup_ending c.pc v), hr]
            cases hl : r.isAlive && r.contains c.pc && !r.isAdapter with
            | false => simp [hl]
            | true =>
                simp only [hl, Bool.not_true, Bool.false_eq_true, if_false, Bool.true_and]
                rw [ending_bind_ok (ctx.returnsToCallStub_ending c.pc v), hr, Option.any_some]
                cases hs : r.isCallStub with
                | false => rfl
                | true => exact guardedFrame_ending ctx c (v.bounds.isAbove c.sp c.savedFp) _ v

theorem managedCallerIsSafe_ending (f : Frame) (ctx : WalkContext) (c : CallerCandidate)
    (v : StackView) :
    (f.managedCallerIsSafe ctx c).ending v = (.ok (f.managedVerdict ctx v c), v) := by
  rw [managedCallerIsSafe, ending_bind_ok (ending_stack v), ctx.throughBarrier_eq f v c.pc c.sp]
  exact candidateIsSafe_ending ctx (c.behind ctx f v) v

/-- The safety check always answers, and it changes nothing. -/
theorem callerIsSafe_ending (f : Frame) (ctx : WalkContext) (v : StackView) :
    (f.callerIsSafe ctx).ending v = (.ok (f.verdict ctx v), v) := by
  rw [callerIsSafe, ending_bind_ok (ending_stack v), verdict]
  -- both sides make the same tests in the same order; the kinds come last
  cases hs : f.stackPointersAreSafe v.bounds with
  | false => rfl
  | true =>
      cases hr : f.region with
      | none => rfl
      | some r =>
          cases hp : f.pcIsSettled r with
          | false => simp [hp]
          | true =>
              simp only [hp, Bool.not_true, Bool.false_eq_true, if_false, Bool.true_and]
              cases hk : f.kind with
              | entry => rfl
              | upcall => rfl
              | interpreted =>
                  cases hf : f.framePointerIsSafe v.bounds with
                  | false => rfl
                  | true =>
                      cases f.interpretedCandidate? v with
                      | none => rfl
                      | some c => exact f.managedCallerIsSafe_ending ctx c v
              | compiled =>
                  cases f.compiledCandidate? r v with
                  | none => rfl
                  | some c => exact f.managedCallerIsSafe_ending ctx c v
              | native => rfl

theorem callerIsSafe_result (f : Frame) (ctx : WalkContext) (v : StackView) :
    ((f.callerIsSafe ctx).run v).result = .ok (f.verdict ctx v) :=
  congrArg Prod.fst (f.callerIsSafe_ending ctx v)

theorem callerIsSafe_eq_true_iff {f : Frame} {ctx : WalkContext} {v : StackView} :
    ((f.callerIsSafe ctx).run v).result = .ok true ↔ f.verdict ctx v = true := by
  rw [f.callerIsSafe_result ctx v, Except.ok.injEq]

theorem callerIsSafe_eq_false_iff {f : Frame} {ctx : WalkContext} {v : StackView} :
    ((f.callerIsSafe ctx).run v).result = .ok false ↔ f.verdict ctx v = false := by
  rw [f.callerIsSafe_result ctx v, Except.ok.injEq]

end Frame

end StackWalk
