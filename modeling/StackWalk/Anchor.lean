import StackWalk.Inspection

/-!
# Frame anchors

When managed code calls native code it records its last frame in an anchor: the stack
pointer and the frame pointer, but not the pc. An anchor that records a frame becomes
walkable when the pc is captured: it is the return address of the call, one word below
the recorded stack pointer. A captured pc stays until the record is replaced or cleared.

An anchor belongs to a thread, or it is kept in stack memory as three words; `AnchorSite`
is an anchor of the second sort.
-/

set_option autoImplicit false

namespace StackWalk

/-- Record of a thread's last managed frame. -/
structure Anchor where
  /-- Stack pointer of the frame; zero if none is recorded. -/
  lastSp : Word
  /-- Program counter of the frame; zero until it is captured. -/
  lastPc : Word
  /-- Frame pointer of the frame. -/
  lastFp : Word
  deriving DecidableEq, Repr

namespace Anchor

/-- The anchor without a record. -/
def empty : Anchor := ⟨0, 0, 0⟩

/-- A frame is recorded. -/
def hasLastFrame (a : Anchor) : Bool := a.lastSp ≠ 0

/-- The pc is known. -/
def isWalkable (a : Anchor) : Bool := a.lastPc ≠ 0

/-- Record of the frame at `sp` and `fp`, with `pc` zero if it is not known yet. -/
def record (sp fp pc : Word) : Anchor := ⟨sp, pc, fp⟩

/-- Text of an anchor. -/
def text (a : Anchor) : String :=
  "FrameAnchor \x7b last_sp: " ++ a.lastSp.hex ++ ", last_fp: " ++ a.lastFp.hex ++
    ", last_pc: " ++ a.lastPc.hex ++ " \x7d"

/-- The return address one word below the stack pointer `sp`. -/
def returnPcBelow (v : StackView) (sp : Word) : Except FrameError Word :=
  match sp.below? with
  | none => .error (.unreadable sp)
  | some slot =>
      match v.read? slot with
      | some pc => .ok pc
      | none => .error (.unreadable slot)

/-- Capture the pc of an anchor that records a frame and is not walkable. -/
def capture (a : Anchor) : Inspection Anchor := do
  Inspection.require a.hasLastFrame .noLastFrame
  Inspection.require (!a.isWalkable) .anchorAlreadyWalkable
  let pc ← returnPcBelow (← Inspection.stack) a.lastSp
  Inspection.log .trace s!"anchor capture: last_sp={a.lastSp.hex} last_pc={pc.hex}"
  return { a with lastPc := pc }

/-- Make sure that the pc is captured, for a walker that came to this anchor. An anchor
that is walkable already is left alone. -/
def ensureWalkable (a : Anchor) : Inspection Anchor := do
  if a.isWalkable then return a
  Inspection.ensure a.hasLastFrame .firstFrame
  let pc ← returnPcBelow (← Inspection.stack) a.lastSp
  Inspection.log .trace s!"anchor capture by walker: last_sp={a.lastSp.hex} last_pc={pc.hex}"
  return { a with lastPc := pc }

/-- Capture the pc if a frame is recorded whose pc is not known yet. Only the thread that
owns the stack may do so, and the pc it finds is never zero. -/
def makeWalkable (a : Anchor) (isOwner : Bool) : Inspection Anchor := do
  if !a.hasLastFrame || a.isWalkable then return a
  Inspection.require isOwner .notOwner
  let captured ← a.capture
  Inspection.require captured.isWalkable .nullPcCaptured
  return captured

end Anchor

/-- An anchor in stack memory. -/
structure AnchorSite where
  /-- Address of the first of its words. -/
  address : Word
  /-- Its contents. -/
  anchor : Anchor
  deriving DecidableEq, Repr

namespace AnchorSite

/-- Words from the start of an anchor to its stack pointer. -/
def spOffset : Int := 0

/-- Words from the start of an anchor to its pc. -/
def pcOffset : Int := 1

/-- Words from the start of an anchor to its frame pointer. -/
def fpOffset : Int := 2

/-- The anchor at `address`, if all its words are accessible. -/
def load? (v : StackView) (address : Word) : Option AnchorSite := do
  let sp ← v.readAt? address spOffset
  let pc ← v.readAt? address pcOffset
  let fp ← v.readAt? address fpOffset
  return ⟨address, sp, pc, fp⟩

/-- The memory with the words of `a` in the place of the anchor. -/
def put (site : AnchorSite) (a : Anchor) (v : StackView) : StackView :=
  ((v.putAt site.address spOffset a.lastSp).putAt site.address fpOffset a.lastFp).putAt
    site.address pcOffset a.lastPc

/-- Store the words of `a` in the place of the anchor. -/
def store (site : AnchorSite) (a : Anchor) : Inspection AnchorSite := do
  Inspection.modifyStack (site.put a)
  return { site with anchor := a }

end AnchorSite

end StackWalk
