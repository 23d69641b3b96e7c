import StackWalk.Proofs.Frame.Anchored
import StackWalk.Proofs.Frame.Caller

/-!
# Callers lie further up

The caller that a frame leads to lies above the frame, for each kind in its own way: it is
above the frame pointer, above the whole of the frame, at the entry of a continuation
around the frame, or at the place that an anchor records (`sp_lt_of_caller`). The walk has
to go past continuations; what a parked one holds lies anywhere.

Computing a caller may store an anchor, but it keeps the bounds of the stack
(`caller_bounds`).
-/

set_option autoImplicit false

namespace StackWalk.Frame

open Inspection

variable {f s : Frame} {ctx : WalkContext} {options : WalkOptions} {v w : StackView}

/-- The registers are in order: no stack pointer is above the other one, and a frame that
is left through its frame pointer has it above both. -/
structure IsOrdered (f : Frame) : Prop where
  extended : f.sp ≤ f.unextendedSp
  based : f.kind = .interpreted ∨ f.kind = .native → f.sp < f.fp

/-- The safety check accepts only frames whose registers are in order. -/
theorem isOrdered_of_verdict (h : f.verdict ctx v = true) : f.IsOrdered := by
  obtain ⟨-, -, -, extended, -⟩ := stackPointersAreSafe_iff.1 (stackPointersAreSafe_of_verdict h)
  refine ⟨extended, fun hk => ?_⟩
  have notCompiled : f.kind ≠ .compiled := by
    rcases hk with hk | hk
    · rw [hk]
      exact FrameKind.noConfusion
    · rw [hk]
      exact FrameKind.noConfusion
  exact (framePointerIsSafe_iff.1 (framePointerIsSafe_of_verdict h notCompiled)).1

/-! ## What is written

Only an anchor is ever written; the callers of all other frames are read. -/

theorem isReadOnly_addressAt (a : Word) (k : Int) : IsReadOnly (addressAt a k) :=
  isReadOnly_orError _ _

theorem isReadOnly_wordAt (a : Word) (k : Int) : IsReadOnly (wordAt a k) :=
  isReadOnly_bind isReadOnly_stack fun _ => isReadOnly_orError _ _

theorem isReadOnly_frameWith (ctx : WalkContext) (sp unextendedSp fp pc : Word) :
    IsReadOnly (ctx.frameWith sp unextendedSp fp pc) :=
  fun v => congrArg Prod.snd (ctx.frameWith_ending sp unextendedSp fp pc v)

theorem isReadOnly_parkedTopBehind (f : Frame) (ctx : WalkContext) (options : WalkOptions)
    (pc : Word) : IsReadOnly (f.parkedTopBehind ctx options pc) := by
  rw [parkedTopBehind]
  split
  · apply isReadOnly_bind isReadOnly_stack
    intro v
    apply isReadOnly_bind (isReadOnly_liftViolation _)
    intro c
    cases c.bind (·.top) with
    | none => exact isReadOnly_pure _
    | some top =>
        exact isReadOnly_bind (isReadOnly_frameWith _ _ _ _ _) fun _ => isReadOnly_pure _
  · exact isReadOnly_pure _

theorem isReadOnly_behindBarrier (f : Frame) (ctx : WalkContext) (options : WalkOptions)
    (pc sp : Word) : IsReadOnly (f.behindBarrier ctx options pc sp) := by
  rw [behindBarrier]
  split
  · exact isReadOnly_pure _
  · exact isReadOnly_bind isReadOnly_stack fun _ => isReadOnly_liftViolation _

theorem isReadOnly_callerBehind (f : Frame) (ctx : WalkContext) (options : WalkOptions)
    (pc sp : Word) {build : Word × Word → Inspection Frame} (h : ∀ x, IsReadOnly (build x)) :
    IsReadOnly (f.callerBehind ctx options pc sp build) := by
  apply isReadOnly_bind (isReadOnly_parkedTopBehind _ _ _ _)
  intro top
  cases top with
  | some top => exact isReadOnly_pure _
  | none => exact isReadOnly_bind (isReadOnly_behindBarrier _ _ _ _ _) h

theorem isReadOnly_interpretedCaller (f : Frame) (ctx : WalkContext) (options : WalkOptions) :
    IsReadOnly (f.interpretedCaller ctx options) := by
  apply isReadOnly_bind (isReadOnly_addressAt _ _)
  intro sp
  apply isReadOnly_bind (isReadOnly_wordAt _ _)
  intro unextendedSp
  apply isReadOnly_bind (isReadOnly_wordAt _ _)
  intro fp
  apply isReadOnly_bind (isReadOnly_wordAt _ _)
  intro pc
  exact isReadOnly_callerBehind f ctx options pc unextendedSp fun _ =>
    isReadOnly_frameWith _ _ _ _ _

theorem isReadOnly_compiledCaller (f : Frame) (ctx : WalkContext) (options : WalkOptions) :
    IsReadOnly (f.compiledCaller ctx options) := by
  apply isReadOnly_bind (isReadOnly_orError _ _)
  intro r
  apply isReadOnly_bind (isReadOnly_require _ _)
  intro _
  apply isReadOnly_bind (isReadOnly_addressAt _ _)
  intro sp
  apply isReadOnly_bind (isReadOnly_wordAt _ _)
  intro pc
  apply isReadOnly_bind (isReadOnly_wordAt _ _)
  intro fp
  exact isReadOnly_callerBehind f ctx options pc sp fun _ => isReadOnly_frameWith _ _ _ _ _

theorem isReadOnly_nativeCaller (f : Frame) (ctx : WalkContext) :
    IsReadOnly (f.nativeCaller ctx) := by
  apply isReadOnly_bind (isReadOnly_addressAt _ _)
  intro sp
  apply isReadOnly_bind (isReadOnly_wordAt _ _)
  intro fp
  apply isReadOnly_bind (isReadOnly_wordAt _ _)
  intro pc
  exact isReadOnly_frameWith _ _ _ _ _

/-- A frame that leads to no anchor leaves the memory as it is. -/
theorem isReadOnly_caller (entry : f.kind ≠ .entry) (upcall : f.kind ≠ .upcall)
    (ctx : WalkContext) (options : WalkOptions) : IsReadOnly (f.caller ctx options) := by
  rw [caller]
  cases hk : f.kind with
  | entry => exact absurd hk entry
  | upcall => exact absurd hk upcall
  | interpreted => exact f.isReadOnly_interpretedCaller ctx options
  | compiled => exact f.isReadOnly_compiledCaller ctx options
  | native => exact f.isReadOnly_nativeCaller ctx

/-- Computing a caller keeps the bounds of the stack. -/
theorem caller_bounds (f : Frame) (ctx : WalkContext) (options : WalkOptions) (v : StackView) :
    ((f.caller ctx options).ending v).2.bounds = v.bounds := by
  cases hk : f.kind with
  | entry =>
      rw [caller_ending_of_entry hk ctx options v]
      exact f.anchored_bounds ctx v _
  | upcall =>
      rw [caller_ending_of_upcall hk ctx options v]
      exact f.anchored_bounds ctx v _
  | interpreted | compiled | native =>
      have reads := f.isReadOnly_caller (by simp [hk]) (by simp [hk]) ctx options
      exact congrArg StackView.bounds (reads v)

/-! ## Where the caller lies -/

theorem sp_lt_of_interpretedCaller (hk : f.kind = .interpreted)
    (past : options.entersContinuations = false) (based : f.sp < f.fp)
    (h : (f.caller ctx options).ending v = (.ok s, w)) : f.sp < s.sp := by
  obtain ⟨c, hc⟩ := interpretedCandidate?_of_caller hk h
  obtain ⟨-, hsp, -, -⟩ := interpretedCandidate?_eq_some_iff.1 hc
  rw [caller_ending_of_interpreted hk hc ctx options (by simp [past])] at h
  cases h
  exact UInt64.lt_trans based (Word.lt_of_offset? hsp (by decide))

theorem sp_lt_of_compiledCaller (hk : f.kind = .compiled)
    (past : options.entersContinuations = false) (extended : f.sp ≤ f.unextendedSp)
    (h : (f.caller ctx options).ending v = (.ok s, w)) : f.sp < s.sp := by
  obtain ⟨r, sp, pc, fp, hr, framed, hsp, hpc, hfp⟩ := readable_of_compiledCaller hk h
  rw [caller_ending_of_compiled hk hr framed hsp hpc hfp ctx options (by simp [past])] at h
  cases h
  show f.sp < (ctx.crossing f v pc sp).2
  rcases ctx.crossing_cases f v pc sp with hx | ⟨c, hc, hx⟩
  · rw [hx]
    exact UInt64.lt_of_le_of_lt extended (Word.lt_of_offset? hsp framed)
  -- at a barrier the caller is the entry of a continuation that contains the frame
  · rw [hx]
    have inside := WalkContext.searchSp_lt_of_around? hc
    rw [f.searchSp_of_compiled hk v] at inside
    exact UInt64.lt_of_le_of_lt extended inside

theorem sp_lt_of_nativeCaller (hk : f.kind = .native) (based : f.sp < f.fp)
    (h : (f.caller ctx options).ending v = (.ok s, w)) : f.sp < s.sp :=
  UInt64.lt_trans based (Word.lt_of_offset? (sp_of_nativeCaller hk h) (by decide))

/-- The caller of a frame whose registers are in order lies above it. -/
theorem sp_lt_of_caller (past : options.entersContinuations = false) (ordered : f.IsOrdered)
    (h : (f.caller ctx options).ending v = (.ok s, w)) : f.sp < s.sp := by
  cases hk : f.kind with
  | entry =>
      rw [caller_ending_of_entry hk ctx options v] at h
      exact sp_lt_of_anchored h
  | upcall =>
      rw [caller_ending_of_upcall hk ctx options v] at h
      exact sp_lt_of_anchored h
  | interpreted => exact sp_lt_of_interpretedCaller hk past (ordered.based (Or.inl hk)) h
  | compiled => exact sp_lt_of_compiledCaller hk past ordered.extended h
  | native => exact sp_lt_of_nativeCaller hk (ordered.based (Or.inr hk)) h

end StackWalk.Frame
