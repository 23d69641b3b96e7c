import StackWalk.Frame.Barrier
import StackWalk.Frame.Entry

/-!
# The caller of a frame

Each kind of frame leads to its caller in its own way:

| kind          | caller's registers                                                  |
|---------------|---------------------------------------------------------------------|
| `entry`       | those recorded in the anchor of its call wrapper                    |
| `upcall`      | those recorded in the anchor of its data block                      |
| `interpreted` | its record: `sp` is `fp + 2` words, `unextendedSp` the word at `-1` |
| `compiled`    | `sp` lies its frame size above its own unextended stack pointer     |
| `native`      | the chain of frame pointers: `sp` is `fp + 2` words                 |

These functions trust the frame. When the stack belongs to another thread,
`Frame.callerIsSafe` has to be asked first.
-/

set_option autoImplicit false

namespace StackWalk

/-- How a walk steps from frame to frame. -/
structure WalkOptions where
  /-- At a return barrier, go into the mounted continuation instead of past it. -/
  entersContinuations : Bool
  deriving DecidableEq, Repr

namespace Frame

/-- The word `k` words away from `a`, which has to be accessible. -/
def wordAt (a : Word) (k : Int) : Inspection Word := do
  Inspection.orError ((← Inspection.stack).readAt? a k) (.unreadable ((a.offset? k).getD a))

/-- The address `k` words away from `a`, which has to exist. -/
def addressAt (a : Word) (k : Int) : Inspection Word :=
  Inspection.orError (a.offset? k) (.unreadable a)

/-- The caller recorded in an anchor. The walk came to this frame, so the anchor is in
use, and its pc can be captured now if it was not before. -/
def callerFromAnchor (f : Frame) (ctx : WalkContext) (site : AnchorSite) :
    Inspection Frame := do
  Inspection.ensure site.anchor.hasLastFrame .firstFrame
  Inspection.require (f.sp < site.anchor.lastSp) .anchorNotAbove
  let site ← site.store (← site.anchor.ensureWalkable)
  Inspection.require site.anchor.isWalkable .anchorNotWalkable
  ctx.frameAt site.anchor.lastSp site.anchor.lastFp site.anchor.lastPc

/-- The frame in which a walk that enters continuations goes on at a return barrier. -/
def parkedTopBehind (f : Frame) (ctx : WalkContext) (options : WalkOptions) (pc : Word) :
    Inspection (Option Frame) :=
  if ctx.isBarrier pc && options.entersContinuations then ctx.parkedTop f else pure none

/-- The caller's pc and stack pointer, behind the return barrier if there is one and the
walk goes past continuations. -/
def behindBarrier (f : Frame) (ctx : WalkContext) (options : WalkOptions) (pc sp : Word) :
    Inspection (Word × Word) := do
  if options.entersContinuations then return (pc, sp)
  ctx.throughBarrier f (← Inspection.stack) pc sp

/-- The caller of an interpreted frame. -/
def interpretedCaller (f : Frame) (ctx : WalkContext) (options : WalkOptions) :
    Inspection Frame := do
  let sp ← addressAt f.fp FrameSlot.callerSp
  let unextendedSp ← wordAt f.fp InterpreterSlot.callerSp.offset
  let fp ← wordAt f.fp FrameSlot.link
  let pc ← wordAt f.fp FrameSlot.returnAddress
  match ← f.parkedTopBehind ctx options pc with
  | some top => return top
  | none =>
      let (pc, unextendedSp) ← f.behindBarrier ctx options pc unextendedSp
      ctx.frameWith sp unextendedSp fp pc

/-- The caller of a compiled frame. The return address is the topmost word of the frame,
and the saved frame pointer the word below it. -/
def compiledCaller (f : Frame) (ctx : WalkContext) (options : WalkOptions) :
    Inspection Frame := do
  let region ← Inspection.orError f.region (.missingRegion f.rawPc)
  Inspection.require (0 < region.frameSize) .noFrameSize
  let sp ← addressAt f.unextendedSp region.frameSize
  let pc ← wordAt sp (-1)
  let fp ← wordAt sp (-2)
  match ← f.parkedTopBehind ctx options pc with
  | some top => return top
  | none =>
      let (pc, sp) ← f.behindBarrier ctx options pc sp
      ctx.frameWith sp sp fp pc

/-- The caller of a native frame. -/
def nativeCaller (f : Frame) (ctx : WalkContext) : Inspection Frame := do
  let sp ← addressAt f.fp FrameSlot.callerSp
  let fp ← wordAt f.fp FrameSlot.link
  let pc ← wordAt f.fp FrameSlot.returnAddress
  ctx.frameAt sp fp pc

/-- The caller of a frame. -/
def caller (f : Frame) (ctx : WalkContext) (options : WalkOptions) : Inspection Frame := do
  match f.kind with
  | .entry => f.callerFromAnchor ctx (← f.entryAnchor ctx.layout (← Inspection.stack))
  | .upcall => f.callerFromAnchor ctx (← f.upcallAnchor (← Inspection.stack))
  | .interpreted => f.interpretedCaller ctx options
  | .compiled => f.compiledCaller ctx options
  | .native => f.nativeCaller ctx

end Frame

end StackWalk
