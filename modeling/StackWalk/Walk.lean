import StackWalk.Frame.Caller
import StackWalk.Frame.Safety

/-!
# Walking a stack

A walk alternates between checking a frame and computing its caller. It yields the frames
from the youngest one upwards and ends at the first frame of the thread, at a frame that
fails the check, at one whose caller cannot be read, or at the configured depth. The
frame at which it ends is still yielded.

The caller of a frame is computed when the frame is yielded, before it is known whether
anybody will ask for it.
-/

set_option autoImplicit false

namespace StackWalk

/-- A walk in progress. -/
structure Walker where
  /-- The frame that is yielded next; `none` when the walk is over. -/
  next : Option Frame
  /-- Number of frames yielded so far. -/
  depth : Nat
  options : WalkOptions
  /-- The starting frame is known to be well formed and need not be checked. -/
  trustsFirst : Bool
  deriving Repr

namespace Walker

/-- A walk that begins at `f`. -/
def startAt (f : Frame) (options : WalkOptions) (trustsFirst : Bool) : Walker :=
  ⟨some f, 0, options, trustsFirst⟩

/-- Log why the walk ends at the given depth. -/
def logTruncated (depth : Nat) (why : String) : Inspection Unit :=
  Inspection.log .debug s!"stack walk truncated at depth {depth}: {why}"

/-- The frame after `f`, which was yielded as number `depth`. -/
def following (w : Walker) (ctx : WalkContext) (depth : Nat) (f : Frame) :
    Inspection (Option Frame) := do
  if f.isFirst ctx.layout (← Inspection.stack) then return none
  let safe ← if w.trustsFirst && depth == 1 then pure true else f.callerIsSafe ctx
  if !safe then
    logTruncated depth s!"unsafe sender of {f.text}"
    return none
  match ← (f.caller ctx w.options).attempt with
  | .ok caller => return some caller
  | .error e =>
      logTruncated depth e.message
      return none

/-- Yield the next frame. -/
def step (w : Walker) (ctx : WalkContext) : Inspection (Option Frame × Walker) := do
  match w.next with
  | none => return (none, w)
  | some f =>
      if ctx.config.maxDepth.toNat ≤ w.depth then
        Inspection.log .debug s!"stack walk truncated at depth limit {w.depth}"
        return (none, { w with next := none })
      let depth := w.depth + 1
      let next ← w.following ctx depth f
      return (some f, { w with next := next, depth := depth })

/-- Yield at most `count` frames. -/
def take (ctx : WalkContext) (count : Nat) (w : Walker) : Inspection (List Frame × Walker) :=
  Inspection.collect (fun w => w.step ctx) count w

/-- Yield all frames. No walk yields more of them than the greatest depth, and one step
more lets it notice that it has come to that depth. -/
def takeAll (w : Walker) (ctx : WalkContext) : Inspection (List Frame × Walker) :=
  take ctx (ctx.config.maxDepth.toNat + 1) w

end Walker

/-- All frames that a walk from `f` reaches. -/
def framesFrom (ctx : WalkContext) (f : Frame) (options : WalkOptions) :
    Inspection (List Frame) :=
  return (← (Walker.startAt f options false).takeAll ctx).1

end StackWalk
