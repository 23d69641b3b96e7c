import StackWalk.Frame.Basic

/-!
# Interpreted frames

An interpreted frame describes itself: its record lies in fixed words below `fp`. When
the frame was built from registers that nobody vouches for, each of those words may be
garbage. `isPlausible` therefore tests each pointer before anything is derived from it,
and asks the metadata oracle about the method and the cache. It reads only accessible
words and always has an answer.

The accessors of the record are meant for interpreted frames only.
-/

set_option autoImplicit false

namespace StackWalk.Frame

/-- Contents of a word of the record. -/
def slotWord? (f : Frame) (v : StackView) (slot : InterpreterSlot) : Option Word :=
  v.readAt? f.fp slot.offset

/-! ## Plausibility -/

/-- The registers leave room for the record: `fp` and `sp` are aligned and not zero, and
`sp` is at or below the lowest word of the record. -/
def hasRecordRoom (f : Frame) : Bool :=
  f.fp ≠ 0 && f.fp.isAligned && f.sp ≠ 0 && f.sp.isAligned &&
    (f.fp.offset? InterpreterSlot.monitors.offset).any (f.sp ≤ ·) && f.sp < f.fp

/-- Size of the frame in words. It is measured from the unextended stack pointer, since
the locals of a callee may have extended the frame. -/
def recordWords (f : Frame) : Nat := (Word.saturatingSub f.fp f.unextendedSp).toNat / wordBytes

/-- Greatest plausible size of a frame of `m`. -/
def wordsLimit (m : Method) (slackWords : Word) : Word :=
  Word.saturatingAdd (Word.saturatingMul m.maxStack 8) slackWords

/-- The bytecode pointer, the cache and the locals of the record fit a frame of `m`. -/
def recordFits (f : Frame) (ctx : WalkContext) (v : StackView) (m : Method) : Bool :=
  f.recordWords ≤ (wordsLimit m ctx.config.slackWords).toNat &&
    (f.slotWord? v .bytecode).any (fun pointer => (m.indexOf? pointer).isSome) &&
    (f.slotWord? v .cache).any ctx.metadata.isMetadata &&
    (f.slotWord? v .locals).any (v.bounds.isFrom f.fp)

/-- The frame looks like a frame of the interpreter. -/
def isPlausible (f : Frame) (ctx : WalkContext) (v : StackView) : Bool :=
  f.isInterpreted && f.hasRecordRoom &&
    ((f.slotWord? v .method).bind ctx.metadata.method?).any (f.recordFits ctx v)

/-! ## Accessors -/

/-- Contents of a word of an interpreted frame's record. -/
def slot (f : Frame) (v : StackView) (s : InterpreterSlot) : Except Violation (Option Word) :=
  if f.isInterpreted then .ok (f.slotWord? v s) else .error .notInterpreted

/-- Store a word into an interpreted frame's record. -/
def setSlot (f : Frame) (s : InterpreterSlot) (value : Word) : Inspection Unit := do
  Inspection.require f.isInterpreted .notInterpreted
  let address ← Inspection.orError (f.fp.offset? s.offset) (.unreadable f.fp)
  Inspection.ensure (← Inspection.write address value) (.unreadable address)

/-- Address at which the monitor block begins. -/
def monitorsBegin? (f : Frame) : Option Word := f.fp.offset? InterpreterSlot.monitors.offset

/-- Address at which the monitor block ends now. -/
def monitorsEnd (f : Frame) (v : StackView) : Except Violation (Option Word) := do
  match ← f.slot v .monitors with
  | none => return none
  | some top =>
      if top < f.sp then throw .monitorsBelowStackPointer
      if f.fp ≤ top then throw (.monitorsAboveFramePointer top f.fp)
      return some top

/-- Address of the top of the expression stack: the outgoing stack pointer during a call,
for which `sp` may have been extended, and `sp` otherwise. -/
def topOfStack (f : Frame) (v : StackView) : Except Violation (Option Word) := do
  match ← f.slot v .lastSp with
  | none => return none
  | some lastSp =>
      if lastSp = 0 then return some f.sp
      if (← f.monitorsEnd v).any (· < lastSp) then throw .badTopOfStack
      return some lastSp

/-- Address of an element of the expression stack, counted from its top. -/
def stackElement (f : Frame) (v : StackView) (index : Int) : Except Violation (Option Word) := do
  return (← f.topOfStack v).bind (·.offset? index)

end StackWalk.Frame
