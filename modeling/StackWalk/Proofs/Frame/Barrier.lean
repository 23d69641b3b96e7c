import StackWalk.Proofs.Frame.Built
import StackWalk.Frame.Caller

/-!
# The return barrier as a function of the memory

The correction at a return barrier never fails: `crossing` is the pc and the stack pointer
that it answers (`throughBarrier_eq`). Either it leaves both alone, or they are those of
the entry of a continuation, which lies above the stack pointer by which the continuation
was found (`crossing_cases`, `searchSp_lt_of_around?`).
-/

set_option autoImplicit false

namespace StackWalk

/-- The stack pointer by which the frame's continuation is looked for. -/
def Frame.searchSp (f : Frame) (v : StackView) : Word :=
  if f.isInterpreted then ((f.slotWord? v .lastSp).filter (· ≠ 0)).getD f.unextendedSp
  else f.unextendedSp

theorem Frame.continuationSp_eq (f : Frame) (v : StackView) :
    f.continuationSp v = .ok (f.searchSp v) := by
  rw [continuationSp, searchSp, slot]
  cases f.isInterpreted with
  | false => rfl
  | true =>
      cases f.slotWord? v .lastSp with
      | none => rfl
      | some lastSp =>
          by_cases h : lastSp = 0
          · simp [h, Option.filter, bind, Except.bind, pure, Except.pure]
          · simp [h, Option.filter, bind, Except.bind, pure, Except.pure]

/-- A compiled frame is looked for by its unextended stack pointer. -/
theorem Frame.searchSp_of_compiled {f : Frame} (h : f.kind = .compiled) (v : StackView) :
    f.searchSp v = f.unextendedSp := by
  simp [searchSp, isInterpreted, h]

/-- The last part of computing a managed caller: the frame parked behind the barrier if the walk
enters continuations, and otherwise one built from the corrected registers. -/
def Frame.callerBehind (f : Frame) (ctx : WalkContext) (options : WalkOptions) (pc sp : Word)
    (build : Word × Word → Inspection Frame) : Inspection Frame := do
  match ← f.parkedTopBehind ctx options pc with
  | some top => return top
  | none => build (← f.behindBarrier ctx options pc sp)

namespace WalkContext

/-- The innermost continuation around the frame. -/
def around? (ctx : WalkContext) (f : Frame) (v : StackView) : Option Continuation :=
  ctx.continuations.bind (·.containing? (f.searchSp v))

theorem continuationOf?_eq (ctx : WalkContext) (f : Frame) (v : StackView) :
    ctx.continuationOf? f v = .ok (ctx.around? f v) := by
  rw [continuationOf?, around?]
  cases ctx.continuations with
  | none => rfl
  | some cs =>
      rw [f.continuationSp_eq v]
      rfl

/-- The entry of a continuation around a frame lies above the frame. -/
theorem searchSp_lt_of_around? {ctx : WalkContext} {f : Frame} {v : StackView}
    {c : Continuation} (h : ctx.around? f v = some c) : f.searchSp v < c.entrySp := by
  obtain ⟨cs, -, hc⟩ := Option.bind_eq_some_iff.1 h
  simpa using List.find?_some hc

/-- The pc and the stack pointer of the caller of `callee` behind the return barrier. -/
def crossing (ctx : WalkContext) (callee : Frame) (v : StackView) (pc sp : Word) :
    Word × Word :=
  if ctx.isBarrier pc then
    ((ctx.around? callee v).map fun c => (c.entryPc, c.entrySp)).getD (pc, sp)
  else (pc, sp)

theorem throughBarrier_eq (ctx : WalkContext) (callee : Frame) (v : StackView)
    (pc sp : Word) : ctx.throughBarrier callee v pc sp = .ok (ctx.crossing callee v pc sp) := by
  rw [throughBarrier, crossing, ctx.continuationOf?_eq callee v]
  cases ctx.isBarrier pc with
  | false => rfl
  | true => cases ctx.around? callee v <;> rfl

theorem crossing_of_not_isBarrier {ctx : WalkContext} {pc : Word}
    (h : ctx.isBarrier pc = false) (callee : Frame) (v : StackView) (sp : Word) :
    ctx.crossing callee v pc sp = (pc, sp) := by
  simp [crossing, h]

/-- The correction leaves both words alone or answers the entry of a continuation. -/
theorem crossing_cases (ctx : WalkContext) (callee : Frame) (v : StackView) (pc sp : Word) :
    ctx.crossing callee v pc sp = (pc, sp) ∨
      ∃ c, ctx.around? callee v = some c ∧
        ctx.crossing callee v pc sp = (c.entryPc, c.entrySp) := by
  rw [crossing]
  cases hb : ctx.isBarrier pc with
  | false => exact Or.inl rfl
  | true =>
      cases hc : ctx.around? callee v with
      | none => exact Or.inl rfl
      | some c => exact Or.inr ⟨c, rfl, rfl⟩

/-- Which pc the correction answers does not depend on the stack pointer it is given. -/
theorem crossing_fst (ctx : WalkContext) (callee : Frame) (v : StackView) (pc sp sp' : Word) :
    (ctx.crossing callee v pc sp).1 = (ctx.crossing callee v pc sp').1 := by
  rw [crossing, crossing]
  cases ctx.isBarrier pc with
  | false => rfl
  | true => cases ctx.around? callee v <;> rfl

/-- The correction moves the stack pointer up if it moves it to an entry at or above it. -/
theorem le_crossing {ctx : WalkContext} {f : Frame} {v : StackView} {sp : Word}
    (h : ∀ e, ctx.around? f v = some e → sp ≤ e.entrySp) (pc : Word) :
    sp ≤ (ctx.crossing f v pc sp).2 := by
  rcases ctx.crossing_cases f v pc sp with same | ⟨e, found, moved⟩
  · rw [same]
    exact UInt64.le_refl sp
  · rw [moved]
    exact h e found

end WalkContext

end StackWalk
