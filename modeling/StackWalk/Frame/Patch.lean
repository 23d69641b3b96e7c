import StackWalk.Frame.Basic

/-!
# Patching a return address

Deoptimization redirects a frame by overwriting the return address that its callee will
use, the word just below the frame's `sp`. After that the frame has two pcs: the raw one
that is now in the slot, and the logical one, which the compiled code saved in the frame.
-/

set_option autoImplicit false

namespace StackWalk.Frame

/-- The frame as it is with `pc` in its return slot. Only a saved pc makes it a
deoptimized one; a pc in the deoptimization stub is taken at its value. -/
def withRawPc (f : Frame) (pc : Word) (v : StackView) : Frame :=
  { f with rawPc := pc, deoptimizedPc := f.region.bind (·.savedPc? pc f.unextendedSp v) }

/-- The return slot may hold `held` when it is to be overwritten with `pc`: one of the
frame's own pcs, the same `pc` from an earlier patch, or nothing. -/
def maySlotHold (f : Frame) (pc held : Word) : Bool :=
  held = f.pc || held = f.rawPc || held = pc || held = 0

/-- Two frames agree in all that a patch changes. -/
def agreesOnPc (f g : Frame) : Bool :=
  f.deoptimizedPc = g.deoptimizedPc && f.pc = g.pc && f.rawPc = g.rawPc

/-- Compare a patched frame with the same frame built afresh. Frames of the
deoptimization stub are exempt: built afresh they count as deoptimized. -/
def verifyPatched (f : Frame) (ctx : WalkContext) : Inspection Unit := do
  if ctx.config.verifyPatched && !f.region.any (·.isDeoptStub) then
    let fresh ← ctx.frameWith f.sp f.unextendedSp f.fp f.rawPc
    Inspection.require (fresh.agreesOnPc f) (.patchedFrameDiffers fresh.text f.text)

/-- Overwrite the return slot of the frame with `pc`, which has to be a pc of the same
code. Answers the frame as it is afterwards; without an answer the frame is still `f`. All that
can end in an error comes before the store, so an error leaves the stack as it was too. The
checks of the patched frame come after the store, and a rule that is broken there leaves `pc`
in the slot. -/
def patch (f : Frame) (ctx : WalkContext) (pc : Word) : Inspection Frame := do
  let region ← ctx.lookup pc
  Inspection.require (region.map (·.id) = f.region.map (·.id)) (.unexpectedPc pc)
  let slot ← Inspection.orError f.sp.below? (.unreadable f.sp)
  let held ← Inspection.orError ((← Inspection.stack).read? slot) (.unreadable slot)
  if ctx.config.tracePatching then
    Inspection.log .trace s!"patch_pc at address {slot.hex} [{held.hex} -> {pc.hex}]"
  Inspection.require (!ctx.isBarrier held) .patchedBarrier
  Inspection.require (f.maySlotHold pc held) (.foreignReturnSlot held f.pc pc)
  let _ ← Inspection.write slot pc
  let patched := f.withRawPc pc (← Inspection.stack)
  Inspection.require (patched.deoptimizedPc.all (· = f.pc)) .savedPcDiffers
  patched.verifyPatched ctx
  return patched

end StackWalk.Frame
