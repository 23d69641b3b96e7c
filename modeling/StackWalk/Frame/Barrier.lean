import StackWalk.Frame.Interpreted

/-!
# Crossing a return barrier

The bottom frame of a mounted continuation returns to the barrier. Its caller is the
entry frame of the innermost continuation that contains it; a walk that goes into the
continuation proceeds with the continuation's top frame instead.
-/

set_option autoImplicit false

namespace StackWalk

/-- Stack pointer that tells which continuation the frame belongs to: during a call of an
interpreted frame its outgoing stack pointer, otherwise the unextended one. -/
def Frame.continuationSp (f : Frame) (v : StackView) : Except Violation Word := do
  if f.isInterpreted then
    match ← f.slot v .lastSp with
    | some lastSp => return if lastSp = 0 then f.unextendedSp else lastSp
    | none => return f.unextendedSp
  else return f.unextendedSp

namespace WalkContext

/-- The innermost continuation that contains the frame. -/
def continuationOf? (ctx : WalkContext) (f : Frame) (v : StackView) :
    Except Violation (Option Continuation) :=
  match ctx.continuations with
  | none => .ok none
  | some cs => do return cs.containing? (← f.continuationSp v)

/-- The pc and the stack pointer of the caller of `callee`, corrected if `pc` is the
return barrier and a continuation contains the callee. -/
def throughBarrier (ctx : WalkContext) (callee : Frame) (v : StackView) (pc sp : Word) :
    Except Violation (Word × Word) := do
  if !ctx.isBarrier pc then return (pc, sp)
  match ← ctx.continuationOf? callee v with
  | some c => return (c.entryPc, c.entrySp)
  | none => return (pc, sp)

/-- The top frame of the continuation that contains `callee`, if it is parked. -/
def parkedTop (ctx : WalkContext) (callee : Frame) : Inspection (Option Frame) := do
  let continuation ← ctx.continuationOf? callee (← Inspection.stack)
  match continuation.bind (·.top) with
  | some top => return some (← ctx.frameAt top.sp top.fp top.pc)
  | none => return none

end WalkContext

end StackWalk
