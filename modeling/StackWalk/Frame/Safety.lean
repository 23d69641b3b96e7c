import StackWalk.Frame.Barrier
import StackWalk.Frame.Entry

/-!
# Frames whose caller can be computed safely

Samplers and scans look at stacks that they do not own and that may have been stopped in
the middle of an update. `Frame.callerIsSafe` decides whether the caller of such a frame
may be computed. It is conservative: it may refuse a good frame, but it should accept
none whose caller would be read from outside the stack or resolve to nothing sensible.

For interpreted and compiled frames it computes a candidate for the caller and judges
that candidate by the code it would execute. It looks one level up only.
-/

set_option autoImplicit false

namespace StackWalk

/-- Registers of a caller, computed from a frame that nobody vouches for. -/
structure CallerCandidate where
  sp : Word
  unextendedSp : Word
  pc : Word
  savedFp : Word
  deriving DecidableEq, Repr

namespace Frame

/-- The stack pointers are usable: `sp` is clear of the guard zone, and the unextended
stack pointer is in the stack at or above it. -/
def stackPointersAreSafe (f : Frame) (b : StackBounds) : Bool :=
  b.isUsable f.sp && b.isFrom f.sp f.unextendedSp

/-- The frame pointer is above `sp`, and the return address above it is in the stack. -/
def framePointerIsSafe (f : Frame) (b : StackBounds) : Bool :=
  b.isAbove f.sp f.fp && (f.fp.offset? FrameSlot.returnAddress).any b.coversValid

/-- The pc lies in the region's code, and not in the prologue or epilogue of code that
tracks the completion of its frames. -/
def pcIsSettled (f : Frame) (r : CodeRegion) : Bool :=
  (r.isCompleteAt f.rawPc || !r.kind.tracksCompletion) && r.contains f.rawPc

/-- Candidate for the caller of an interpreted frame. -/
def interpretedCandidate? (f : Frame) (v : StackView) : Option CallerCandidate := do
  let pc ← v.readAt? f.fp FrameSlot.returnAddress
  let sp ← f.fp.offset? FrameSlot.callerSp
  let unextendedSp ← v.readAt? f.fp InterpreterSlot.callerSp.offset
  let savedFp ← v.readAt? f.fp FrameSlot.link
  return ⟨sp, unextendedSp, pc, savedFp⟩

/-- Candidate for the caller of a compiled frame. Without a frame size there is no
telling where the return address is. -/
def compiledCandidate? (f : Frame) (r : CodeRegion) (v : StackView) :
    Option CallerCandidate := do
  guard (0 < r.frameSize)
  let sp ← f.unextendedSp.offset? r.frameSize
  guard (v.bounds.coversValid sp)
  let pc ← v.readAt? sp (-1)
  let savedFp ← v.readAt? sp (-2)
  return ⟨sp, sp, pc, savedFp⟩

/-- Code outside the interpreter and the call stub that may be the caller of managed
code: a compiled method with frames, stopped neither at a deoptimization handler nor in
a method handle intrinsic. -/
def mayCall (r : CodeRegion) (pc : Word) : Bool :=
  !r.isUpcallStub && !r.isDeoptPc pc && !r.isIntrinsic && 0 < r.frameSize && r.isCompiled

/-- The candidate can be the caller of managed code. A saved frame pointer matters only
if the interpreter or the call stub would use it. -/
def candidateIsSafe (ctx : WalkContext) (c : CallerCandidate) : Inspection Bool := do
  let v ← Inspection.stack
  if ← ctx.inInterpreter c.pc then
    if !v.bounds.isAbove c.sp c.savedFp then return false
    let caller ← ctx.frameWith c.sp c.unextendedSp c.savedFp c.pc
    return caller.isPlausible ctx v
  if c.pc = 0 then return false
  match ← ctx.lookup c.pc with
  | none => return false
  | some r =>
      if !(r.isAlive && r.contains c.pc && !r.isAdapter) then return false
      if ← ctx.returnsToCallStub c.pc then
        if !v.bounds.isAbove c.sp c.savedFp then return false
        let caller ← ctx.frameWith c.sp c.unextendedSp c.savedFp c.pc
        return (caller.callWrapper? ctx.layout v).any (v.bounds.isAbove caller.fp)
      return mayCall r c.pc

/-- Judge the candidate for the caller of `f`, found behind the return barrier if the
frame returns to it. -/
def managedCallerIsSafe (f : Frame) (ctx : WalkContext) (c : CallerCandidate) :
    Inspection Bool := do
  let (pc, sp) ← ctx.throughBarrier f (← Inspection.stack) c.pc c.sp
  candidateIsSafe ctx { c with pc := pc, sp := sp }

/-- The caller of the frame can be computed safely. A native frame is followed through
its frame pointer; past that only a null return address, that of the oldest frame, can
be ruled out. The frame pointer of a compiled frame does not matter. -/
def callerIsSafe (f : Frame) (ctx : WalkContext) : Inspection Bool := do
  let v ← Inspection.stack
  if !f.stackPointersAreSafe v.bounds then return false
  match f.region with
  | none => return f.framePointerIsSafe v.bounds && (f.returnAddress? v).any (· ≠ 0)
  | some r =>
      if !f.pcIsSettled r then return false
      match f.kind with
      | .entry => return f.framePointerIsSafe v.bounds && f.isEntryValid ctx.layout v
      | .upcall => return f.framePointerIsSafe v.bounds
      | .interpreted =>
          if !f.framePointerIsSafe v.bounds then return false
          match f.interpretedCandidate? v with
          | some c => f.managedCallerIsSafe ctx c
          | none => return false
      | .compiled =>
          match f.compiledCandidate? r v with
          | some c => f.managedCallerIsSafe ctx c
          | none => return false
      | .native => return false

end Frame

end StackWalk
