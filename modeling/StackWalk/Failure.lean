import StackWalk.Word.Hex

/-!
# Failures of frame operations

A frame operation can fail in two ways. A `FrameError` is an answer: the requested
caller, anchor or patched frame does not exist or cannot be read. A `Violation` is a
broken rule of use: an address computed from the extent of a stack overflowed, or a
condition that the callers promise does not hold. Predicates raise neither.
-/

set_option autoImplicit false

namespace StackWalk

/-- Why an operation has no result. -/
inductive FrameError where
  /-- The stack word at `address` is outside the thread's stack. -/
  | unreadable (address : Word)
  /-- The frame is the oldest managed frame of its thread. -/
  | firstFrame
  /-- The operation needs the code region of `pc`, and there is none. -/
  | missingRegion (pc : Word)
  /-- The upcall stub `name` does not say where its frames keep their anchor. -/
  | missingAnchorData (name : String)
  deriving DecidableEq, Repr

/-- Text of a frame error. -/
def FrameError.message : FrameError → String
  | unreadable address => s!"stack word at {address.hex} is not readable"
  | firstFrame => "entry frame has no managed caller"
  | missingRegion pc => s!"no code region contains pc {pc.hex}"
  | missingAnchorData name => s!"optimized entry region `{name}` has no frame data offset"

/-- Broken rules of use. -/
inductive Violation where
  /-- The lowest address of a stack is not a multiple of the word size. -/
  | misalignedStack
  /-- A stack was to have more words than memory can be reserved for. -/
  | tooManyWords
  /-- The end of a stack's extent does not fit in a word. -/
  | addressOverflow
  /-- Code starting at `start` would overlap installed code. -/
  | overlappingCode (start : Word)
  /-- A property was given to a code region whose kind does not have it. -/
  | wrongCodeKind
  /-- A frame was to be patched with a `pc` of other code. -/
  | unexpectedPc (pc : Word)
  /-- The return slot to be patched holds the return barrier. -/
  | patchedBarrier
  /-- The return slot holds `held`, which is neither the frame's nor the new pc. -/
  | foreignReturnSlot (held logical pc : Word)
  /-- The pc saved in the frame differs from the one that it is at. -/
  | savedPcDiffers
  /-- A patched frame differs from the same frame built afresh; both as text. -/
  | patchedFrameDiffers (fresh patched : String)
  /-- The anchor of an entry frame points below that frame. -/
  | anchorNotAbove
  /-- The anchor of an entry frame has no pc after it was captured. -/
  | anchorNotWalkable
  /-- A pc was to be captured for an anchor that records no frame. -/
  | noLastFrame
  /-- A pc was to be captured for an anchor that has one. -/
  | anchorAlreadyWalkable
  /-- Only the owning thread may make this anchor walkable. -/
  | notOwner
  /-- The captured pc is zero. -/
  | nullPcCaptured
  /-- The code of a compiled frame declares no frame size. -/
  | noFrameSize
  /-- An interpreter slot of another kind of frame was asked for. -/
  | notInterpreted
  /-- The monitor block ends below the stack pointer. -/
  | monitorsBelowStackPointer
  /-- The monitor block ends at `top`, which is not below the frame pointer. -/
  | monitorsAboveFramePointer (top framePointer : Word)
  /-- The top of the expression stack lies above the monitor block. -/
  | badTopOfStack
  deriving DecidableEq, Repr

/-- Text of a violation. -/
def Violation.message : Violation → String
  | misalignedStack => "stack base must be word aligned"
  | tooManyWords => "capacity overflow"
  | addressOverflow => "attempt to add with overflow"
  | overlappingCode start => s!"overlapping code region {start.hex}"
  | wrongCodeKind => "assertion `left == right` failed"
  | unexpectedPc pc => s!"unexpected pc {pc.hex}"
  | patchedBarrier => "return barrier"
  | foreignReturnSlot held logical pc =>
      s!"return slot {held.hex} holds neither {logical.hex} nor {pc.hex}"
  | savedPcDiffers => "expected original pc to be stored before patching"
  | patchedFrameDiffers fresh patched =>
      s!"patched frame disagrees with a fresh one: {fresh} vs {patched}"
  | anchorNotAbove => "must be above this frame on stack"
  | anchorNotWalkable => "not walkable"
  | noLastFrame => "no last frame set"
  | anchorAlreadyWalkable => "anchor already walkable"
  | notOwner => "assertion `left == right` failed: not current thread"
  | nullPcCaptured => "anchor capture produced a null pc"
  | noFrameSize => "compiled frame must have a frame"
  | notInterpreted => "interpreted frame expected"
  | monitorsBelowStackPointer => "monitor end should be above the stack pointer"
  | monitorsAboveFramePointer top framePointer =>
      "monitor end should be strictly below the frame pointer: " ++
        s!"end {top.hex} fp {framePointer.hex}"
  | badTopOfStack => "bad tos"

/-- How an operation failed: by an answer or by a broken rule of use. -/
inductive Failure where
  | error (e : FrameError)
  | violation (v : Violation)
  deriving DecidableEq, Repr

end StackWalk
