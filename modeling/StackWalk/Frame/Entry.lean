import StackWalk.Anchor
import StackWalk.Frame.Basic

/-!
# Entry frames

A frame of the call stub or of an upcall stub has no ordinary caller: below it lie native
frames. It leads to an anchor instead, which records the last managed frame before the
native code. The call stub keeps the anchor in a call wrapper, whose address is stored
in its frame; an upcall stub keeps it in the data block of its frame.
-/

set_option autoImplicit false

namespace StackWalk.Frame

/-- Address of the call wrapper that the call stub stored in the frame. -/
def callWrapper? (f : Frame) (layout : EntryLayout) (v : StackView) : Option Word :=
  v.readAt? f.fp layout.wrapperOffset

/-- The anchor whose first word is `offset` bytes above `start`. -/
def anchorAbove (start offset : Word) (v : StackView) : Except FrameError AnchorSite :=
  match start.checkedAdd? offset with
  | none => .error (.unreadable start)
  | some address =>
      match AnchorSite.load? v address with
      | some site => .ok site
      | none => .error (.unreadable address)

/-- The anchor in the call wrapper of an entry frame. -/
def entryAnchor (f : Frame) (layout : EntryLayout) (v : StackView) :
    Except FrameError AnchorSite :=
  match f.callWrapper? layout v with
  | some wrapper => anchorAbove wrapper layout.anchorOffset v
  | none => .error (.unreadable ((f.fp.offset? layout.wrapperOffset).getD f.fp))

/-- The anchor in the data block of an upcall frame. -/
def upcallAnchor (f : Frame) (v : StackView) : Except FrameError AnchorSite :=
  match f.region with
  | none => .error (.missingRegion f.rawPc)
  | some r =>
      match r.dataOffset? with
      | none => .error (.missingAnchorData r.name)
      | some offset => anchorAbove f.unextendedSp offset v

/-- The call wrapper lies between `fp` and the stack base, and its anchor points above
this frame. -/
def isEntryValid (f : Frame) (layout : EntryLayout) (v : StackView) : Bool :=
  match f.callWrapper? layout v with
  | none => false
  | some wrapper =>
      v.bounds.isAbove f.fp wrapper &&
        match f.entryAnchor layout v with
        | .ok site => f.sp < site.anchor.lastSp
        | .error _ => false

/-- The anchor is there and records no frame. -/
def anchorIsEmpty : Except FrameError AnchorSite → Bool
  | .ok site => !site.anchor.hasLastFrame
  | .error _ => false

/-- No managed frame precedes this entry frame. -/
def isFirstEntry (f : Frame) (layout : EntryLayout) (v : StackView) : Bool :=
  anchorIsEmpty (f.entryAnchor layout v)

/-- No managed frame precedes this upcall frame. -/
def isFirstUpcall (f : Frame) (v : StackView) : Bool := anchorIsEmpty (f.upcallAnchor v)

/-- The oldest managed frame of its thread. -/
def isFirst (f : Frame) (layout : EntryLayout) (v : StackView) : Bool :=
  match f.kind with
  | .entry => f.isFirstEntry layout v
  | .upcall => f.isFirstUpcall v
  | .interpreted | .compiled | .native => false

end StackWalk.Frame
