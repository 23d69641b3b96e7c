import Mathlib.Data.Option.Basic
import StackWalk.Proofs.Frame.Verdict
import StackWalk.Frame.Caller

/-!
# What computing a caller does

The caller of interpreted, compiled and native frames, as a function of the memory. For
interpreted and compiled frames it has the registers of the candidate that the safety check
judges (`interpretedCaller_ending`, `compiledCaller_ending`). At the return barrier they may be
corrected, or a parked frame may take the place of the caller (`correctedReturn`,
`parkedFrame?`); a walk that goes past continuations always corrects them
(`caller_ending_of_interpreted`, `caller_ending_of_compiled`).
-/

set_option autoImplicit false

namespace StackWalk

open Inspection

namespace Frame

/-! ## Reading words and addresses -/

theorem wordAt_ending (a : Word) (k : Int) (v : StackView) :
    (wordAt a k).ending v =
      ((v.readAt? a k).elim (.error (.error (.unreadable ((a.offset? k).getD a)))) .ok, v) := by
  rw [wordAt, ending_bind_ok (ending_stack v), ending_orError]

theorem wordAt_ending_of_some {a : Word} {k : Int} {v : StackView} {w : Word}
    (h : v.readAt? a k = some w) : (wordAt a k).ending v = (.ok w, v) := by
  rw [wordAt_ending, h]
  rfl

/-- A computation that begins with a read succeeds exactly if the word is there. -/
theorem wordAt_bind_ending_eq_ok_iff {α : Type} {a : Word} {k : Int} {v w : StackView} {b : α}
    {next : Word → Inspection α} :
    (wordAt a k >>= next).ending v = (.ok b, w) ↔
      ∃ x, v.readAt? a k = some x ∧ (next x).ending v = (.ok b, w) := by
  rw [wordAt, bind_assoc, ending_bind_ok (ending_stack v)]
  exact ending_orError_bind_eq_ok_iff

theorem addressAt_ending_of_some {a b : Word} {k : Int} (v : StackView)
    (h : a.offset? k = some b) : (addressAt a k).ending v = (.ok b, v) := by
  rw [addressAt, ending_orError, h]
  rfl

theorem addressAt_bind_ending_eq_ok_iff {α : Type} {a : Word} {k : Int} {v w : StackView}
    {b : α} {next : Word → Inspection α} :
    (addressAt a k >>= next).ending v = (.ok b, w) ↔
      ∃ x, a.offset? k = some x ∧ (next x).ending v = (.ok b, w) := by
  rw [addressAt]
  exact ending_orError_bind_eq_ok_iff

variable {f : Frame} {ctx : WalkContext} {options : WalkOptions} {v : StackView}

/-! ## At the return barrier

A walk that enters continuations goes on in the parked frame behind the barrier. If there is
none, it leaves the registers as they are. Any other walk corrects them. -/

/-- The parked frame behind the return address `pc`, for a walk that looks for it. -/
def parkedFrame? (f : Frame) (ctx : WalkContext) (options : WalkOptions) (v : StackView)
    (pc : Word) : Option Frame :=
  if ctx.isBarrier pc && options.entersContinuations then
    ((ctx.around? f v).bind (·.top)).map fun top => ctx.frameOn v top.sp top.sp top.fp top.pc
  else none

/-- The caller's pc and stack pointer, corrected unless the walk enters continuations. -/
def correctedReturn (f : Frame) (ctx : WalkContext) (options : WalkOptions) (v : StackView)
    (pc sp : Word) : Word × Word :=
  if options.entersContinuations then (pc, sp) else ctx.crossing f v pc sp

/-- Unless it is asked to, a walk enters no continuation. -/
theorem goesPast (ctx : WalkContext) (pc : Word) :
    (WalkOptions.mk false).entersContinuations = true → ctx.isBarrier pc = false := by
  intro enters
  cases enters

/-- A walk goes past continuations if it does not enter them, or if there is no barrier. -/
theorem parkedFrame?_of_goesPast {pc : Word}
    (past : options.entersContinuations = true → ctx.isBarrier pc = false) :
    f.parkedFrame? ctx options v pc = none := by
  rw [parkedFrame?, if_neg]
  rw [Bool.and_eq_true]
  rintro ⟨barrier, enters⟩
  rw [past enters] at barrier
  cases barrier

theorem correctedReturn_of_goesPast {pc : Word}
    (past : options.entersContinuations = true → ctx.isBarrier pc = false) (sp : Word) :
    f.correctedReturn ctx options v pc sp = ctx.crossing f v pc sp := by
  rw [correctedReturn]
  split
  -- the registers are not corrected, and there is nothing to correct
  · next enters => exact (ctx.crossing_of_not_isBarrier (past enters) f v sp).symm
  · rfl

theorem parkedTopBehind_ending (pc : Word) :
    (f.parkedTopBehind ctx options pc).ending v =
      (.ok (f.parkedFrame? ctx options v pc), v) := by
  rw [parkedTopBehind, parkedFrame?]
  split
  · have found : (liftM (ctx.continuationOf? f v) : Inspection (Option Continuation)).ending v =
        (.ok (ctx.around? f v), v) := by
      rw [ctx.continuationOf?_eq f v]
      rfl
    rw [WalkContext.parkedTop, ending_bind_ok (ending_stack v), ending_bind_ok found]
    cases (ctx.around? f v).bind (·.top) with
    | none => rfl
    | some top => rfl
  · rfl

theorem behindBarrier_ending (pc sp : Word) :
    (f.behindBarrier ctx options pc sp).ending v =
      (.ok (f.correctedReturn ctx options v pc sp), v) := by
  rw [behindBarrier, correctedReturn]
  split
  · rfl
  · rw [ending_bind_ok (ending_stack v), ctx.throughBarrier_eq f v pc sp]
    rfl

theorem callerBehind_ending {pc sp : Word} {make : Word × Word → Inspection Frame}
    {build : Word × Word → Frame} (makes : ∀ x, (make x).ending v = (.ok (build x), v)) :
    (f.callerBehind ctx options pc sp make).ending v =
      (.ok ((f.parkedFrame? ctx options v pc).getD
        (build (f.correctedReturn ctx options v pc sp))), v) := by
  rw [callerBehind, ending_bind_ok (parkedTopBehind_ending pc)]
  cases f.parkedFrame? ctx options v pc with
  | some top => rfl
  | none => exact (ending_bind_ok (behindBarrier_ending pc sp)).trans (makes _)

/-! ## Interpreted frames -/

theorem interpretedCandidate?_eq_some_iff {c : CallerCandidate} :
    f.interpretedCandidate? v = some c ↔
      v.readAt? f.fp FrameSlot.returnAddress = some c.pc ∧
        f.fp.offset? FrameSlot.callerSp = some c.sp ∧
          v.readAt? f.fp InterpreterSlot.callerSp.offset = some c.unextendedSp ∧
            v.readAt? f.fp FrameSlot.link = some c.savedFp := by
  rw [interpretedCandidate?]
  simp only [Option.bind_eq_bind, Option.bind_eq_some_iff, Option.pure_def, Option.some.injEq]
  constructor
  · rintro ⟨pc, hpc, sp, hsp, usp, husp, fp, hfp, rfl⟩
    exact ⟨hpc, hsp, husp, hfp⟩
  · rintro ⟨hpc, hsp, husp, hfp⟩
    exact ⟨_, hpc, _, hsp, _, husp, _, hfp, rfl⟩

/-- The caller of an interpreted frame has the registers of the candidate, but its pc and its
unextended stack pointer may be corrected, and a parked frame may be in its place. -/
theorem interpretedCaller_ending {c : CallerCandidate} (hk : f.kind = .interpreted)
    (h : f.interpretedCandidate? v = some c) (ctx : WalkContext) (options : WalkOptions) :
    (f.caller ctx options).ending v =
      (.ok ((f.parkedFrame? ctx options v c.pc).getD
        (ctx.frameOn v c.sp (f.correctedReturn ctx options v c.pc c.unextendedSp).2 c.savedFp
          (f.correctedReturn ctx options v c.pc c.unextendedSp).1)), v) := by
  obtain ⟨hpc, hsp, husp, hfp⟩ := interpretedCandidate?_eq_some_iff.1 h
  rw [caller, hk]
  show (f.interpretedCaller ctx options).ending v = _
  rw [interpretedCaller, ending_bind_ok (addressAt_ending_of_some v hsp),
    ending_bind_ok (wordAt_ending_of_some husp), ending_bind_ok (wordAt_ending_of_some hfp),
    ending_bind_ok (wordAt_ending_of_some hpc)]
  exact callerBehind_ending fun _ => ctx.frameWith_ending ..

/-- The caller of an interpreted frame has the registers of the candidate; at a barrier its
pc and its unextended stack pointer are those of the continuation's entry. -/
theorem caller_ending_of_interpreted {c : CallerCandidate} (hk : f.kind = .interpreted)
    (h : f.interpretedCandidate? v = some c) (ctx : WalkContext) (options : WalkOptions)
    (past : options.entersContinuations = true → ctx.isBarrier c.pc = false) :
    (f.caller ctx options).ending v =
      (.ok (ctx.frameOn v c.sp (ctx.crossing f v c.pc c.unextendedSp).2 c.savedFp
        (ctx.crossing f v c.pc c.unextendedSp).1), v) := by
  rw [interpretedCaller_ending hk h, parkedFrame?_of_goesPast past,
    correctedReturn_of_goesPast past, Option.getD_none]

/-- An interpreted frame with a caller has a candidate for it. -/
theorem interpretedCandidate?_of_caller {s : Frame} {w : StackView}
    (hk : f.kind = .interpreted) (h : (f.caller ctx options).ending v = (.ok s, w)) :
    ∃ c, f.interpretedCandidate? v = some c := by
  rw [caller, hk] at h
  change (f.interpretedCaller ctx options).ending v = (.ok s, w) at h
  rw [interpretedCaller] at h
  obtain ⟨sp, hsp, h⟩ := addressAt_bind_ending_eq_ok_iff.1 h
  obtain ⟨usp, husp, h⟩ := wordAt_bind_ending_eq_ok_iff.1 h
  obtain ⟨fp, hfp, h⟩ := wordAt_bind_ending_eq_ok_iff.1 h
  obtain ⟨pc, hpc, -⟩ := wordAt_bind_ending_eq_ok_iff.1 h
  exact ⟨⟨sp, usp, pc, fp⟩, interpretedCandidate?_eq_some_iff.2 ⟨hpc, hsp, husp, hfp⟩⟩

/-! ## Compiled frames -/

theorem compiledCandidate?_eq_some_iff {r : CodeRegion} {c : CallerCandidate} :
    f.compiledCandidate? r v = some c ↔
      0 < r.frameSize ∧ f.unextendedSp.offset? r.frameSize = some c.sp ∧
        v.bounds.coversValid c.sp = true ∧ v.readAt? c.sp (-1) = some c.pc ∧
          v.readAt? c.sp (-2) = some c.savedFp ∧ c.unextendedSp = c.sp := by
  simp only [compiledCandidate?, Option.bind_eq_bind, Option.bind_eq_some_iff, Option.pure_def,
    Option.some.injEq, Option.guard_eq_some']
  constructor
  -- the two guards bind values of their own, which say nothing
  · rintro ⟨-, hk, sp, hsp, -, hb, pc, hpc, fp, hfp, rfl⟩
    exact ⟨hk, hsp, hb, hpc, hfp, rfl⟩
  · rintro ⟨hk, hsp, hb, hpc, hfp, h⟩
    refine ⟨(), hk, _, hsp, (), hb, _, hpc, _, hfp, ?_⟩
    rcases c with ⟨sp, usp, pc, fp⟩
    cases h
    rfl

/-- A compiled frame of a known size whose top words can be read has a caller. Its pc and its
stack pointer may be corrected, and a parked frame may be in its place. -/
theorem compiledCaller_ending {r : CodeRegion} {sp pc fp : Word} (hk : f.kind = .compiled)
    (code : f.region = some r) (framed : 0 < r.frameSize)
    (hsp : f.unextendedSp.offset? r.frameSize = some sp) (hpc : v.readAt? sp (-1) = some pc)
    (hfp : v.readAt? sp (-2) = some fp) (ctx : WalkContext) (options : WalkOptions) :
    (f.caller ctx options).ending v =
      (.ok ((f.parkedFrame? ctx options v pc).getD
        (ctx.frameOn v (f.correctedReturn ctx options v pc sp).2
          (f.correctedReturn ctx options v pc sp).2 fp
          (f.correctedReturn ctx options v pc sp).1)), v) := by
  have region : (orError f.region (.missingRegion f.rawPc)).ending v = (.ok r, v) := by
    rw [code]
    rfl
  have size : (require (0 < r.frameSize) .noFrameSize).ending v = (.ok (), v) := by
    rw [decide_eq_true framed]
    rfl
  rw [caller, hk]
  show (f.compiledCaller ctx options).ending v = _
  rw [compiledCaller, ending_bind_ok region, ending_bind_ok size,
    ending_bind_ok (addressAt_ending_of_some v hsp), ending_bind_ok (wordAt_ending_of_some hpc),
    ending_bind_ok (wordAt_ending_of_some hfp)]
  exact callerBehind_ending fun _ => ctx.frameWith_ending ..

/-- At a barrier the caller is the entry of the continuation, under the saved frame pointer. -/
theorem caller_ending_of_compiled {r : CodeRegion} {sp pc fp : Word} (hk : f.kind = .compiled)
    (code : f.region = some r) (framed : 0 < r.frameSize)
    (hsp : f.unextendedSp.offset? r.frameSize = some sp) (hpc : v.readAt? sp (-1) = some pc)
    (hfp : v.readAt? sp (-2) = some fp) (ctx : WalkContext) (options : WalkOptions)
    (past : options.entersContinuations = true → ctx.isBarrier pc = false) :
    (f.caller ctx options).ending v =
      (.ok (ctx.frameOn v (ctx.crossing f v pc sp).2 (ctx.crossing f v pc sp).2 fp
        (ctx.crossing f v pc sp).1), v) := by
  rw [compiledCaller_ending hk code framed hsp hpc hfp, parkedFrame?_of_goesPast past,
    correctedReturn_of_goesPast past, Option.getD_none]

/-- A compiled frame with a caller is one of a known size whose top words can be read. -/
theorem readable_of_compiledCaller {s : Frame} {w : StackView} (hk : f.kind = .compiled)
    (h : (f.caller ctx options).ending v = (.ok s, w)) :
    ∃ r sp pc fp, f.region = some r ∧ 0 < r.frameSize ∧
      f.unextendedSp.offset? r.frameSize = some sp ∧ v.readAt? sp (-1) = some pc ∧
        v.readAt? sp (-2) = some fp := by
  rw [caller, hk] at h
  change (f.compiledCaller ctx options).ending v = (.ok s, w) at h
  rw [compiledCaller] at h
  obtain ⟨r, hr, h⟩ := ending_orError_bind_eq_ok_iff.1 h
  obtain ⟨framed, h⟩ := ending_require_bind_eq_ok_iff.1 h
  obtain ⟨sp, hsp, h⟩ := addressAt_bind_ending_eq_ok_iff.1 h
  obtain ⟨pc, hpc, h⟩ := wordAt_bind_ending_eq_ok_iff.1 h
  obtain ⟨fp, hfp, -⟩ := wordAt_bind_ending_eq_ok_iff.1 h
  exact ⟨r, sp, pc, fp, hr, of_decide_eq_true framed, hsp, hpc, hfp⟩

/-! ## Native frames -/

/-- A native frame whose two topmost words can be read has a caller. -/
theorem caller_ending_of_native {sp fp pc : Word} (hk : f.kind = .native)
    (hsp : f.fp.offset? FrameSlot.callerSp = some sp)
    (hfp : v.readAt? f.fp FrameSlot.link = some fp)
    (hpc : v.readAt? f.fp FrameSlot.returnAddress = some pc) (ctx : WalkContext)
    (options : WalkOptions) :
    (f.caller ctx options).ending v = (.ok (ctx.frameOn v sp sp fp pc), v) := by
  rw [caller, hk]
  show (f.nativeCaller ctx).ending v = _
  rw [nativeCaller, ending_bind_ok (addressAt_ending_of_some v hsp),
    ending_bind_ok (wordAt_ending_of_some hfp), ending_bind_ok (wordAt_ending_of_some hpc)]
  rfl

/-- A native frame with a caller is one whose two topmost words can be read. -/
theorem readable_of_nativeCaller {s : Frame} {w : StackView} (hk : f.kind = .native)
    (h : (f.caller ctx options).ending v = (.ok s, w)) :
    ∃ sp fp pc, f.fp.offset? FrameSlot.callerSp = some sp ∧
      v.readAt? f.fp FrameSlot.link = some fp ∧
        v.readAt? f.fp FrameSlot.returnAddress = some pc := by
  rw [caller, hk] at h
  change (f.nativeCaller ctx).ending v = (.ok s, w) at h
  rw [nativeCaller] at h
  obtain ⟨sp, hsp, h⟩ := addressAt_bind_ending_eq_ok_iff.1 h
  obtain ⟨fp, hfp, h⟩ := wordAt_bind_ending_eq_ok_iff.1 h
  obtain ⟨pc, hpc, -⟩ := wordAt_bind_ending_eq_ok_iff.1 h
  exact ⟨sp, fp, pc, hsp, hfp, hpc⟩

theorem sp_of_nativeCaller {s : Frame} {w : StackView} (hk : f.kind = .native)
    (h : (f.caller ctx options).ending v = (.ok s, w)) :
    f.fp.offset? FrameSlot.callerSp = some s.sp := by
  obtain ⟨sp, fp, pc, hsp, hfp, hpc⟩ := readable_of_nativeCaller hk h
  rw [caller_ending_of_native hk hsp hfp hpc] at h
  cases h
  exact hsp

end Frame

end StackWalk
