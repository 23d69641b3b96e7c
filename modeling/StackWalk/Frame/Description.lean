import StackWalk.Frame.Basic

/-!
# Describing the words of a frame

For debugging, the words around a frame are listed with labels. A word whose address
does not exist is left out; one that is not accessible is listed without a value.
-/

set_option autoImplicit false

namespace StackWalk

/-- One labelled stack word. -/
structure SlotDescription where
  address : Word
  label : String
  /-- Contents of the word, if it is accessible. -/
  value : Option Word
  deriving DecidableEq, Repr

namespace SlotDescription

/-- Describe the word `k` words away from `base`. -/
def at? (v : StackView) (base : Word) (k : Int) (label : String) : Option SlotDescription :=
  (base.offset? k).map fun address => ⟨address, label, v.read? address⟩

/-- Text of a labelled word. -/
def text (d : SlotDescription) : String :=
  let value := match d.value with
    | some w => w.hexPadded
    | none => "<unreadable>"
  s!"{d.address.hexPadded}: {value} {d.label}"

end SlotDescription

namespace Frame

/-- The record of an interpreted frame. -/
def describeRecord (f : Frame) (v : StackView) : List SlotDescription :=
  InterpreterSlot.all.filterMap fun s => SlotDescription.at? v f.fp s.offset s.label

/-- The words that the call stub has saved in an entry frame. -/
def describeSaved (f : Frame) (layout : EntryLayout) (v : StackView) : List SlotDescription :=
  (List.range layout.savedWords.toNat).filterMap fun i : Nat =>
    SlotDescription.at? v f.fp (-(i : Int)) s!"call_stub word fp - {i}"

/-- Label of the return slot of frame number `number`. -/
def returnLabel (f : Frame) (ctx : WalkContext) (v : StackView) (number : Nat) : String :=
  if (v.readAt? f.sp (-FrameSlot.returnAddress)).any ctx.isBarrier then
    "return address (return barrier)"
  else s!"return address for #{number}"

/-- The words that the kind of the frame gives a meaning, and those below its `sp`. -/
def describe (f : Frame) (ctx : WalkContext) (v : StackView) (number : Nat) :
    List SlotDescription :=
  let own := match f.kind with
    | .interpreted => f.describeRecord v
    | .entry => f.describeSaved ctx.layout v
    | .upcall | .compiled | .native => []
  own ++ [
    SlotDescription.at? v f.sp (-FrameSlot.returnAddress) (f.returnLabel ctx v number),
    SlotDescription.at? v f.sp (-FrameSlot.callerSp) s!"saved fp for #{number}"].filterMap id

/-- All fixed words around `fp`, whatever the kind of the frame. -/
def rawSlots (f : Frame) (v : StackView) : List SlotDescription :=
  let slots : List (Int × String) := [
    (FrameSlot.link, "pc_return"),
    (FrameSlot.link, "link"),
    (FrameSlot.returnAddress, "return_addr"),
    (FrameSlot.callerSp, "sender_sp"),
    (FrameSlot.resultHandler, "interpreter_frame_result_handler"),
    (FrameSlot.objectResult, "interpreter_frame_oop_temp")] ++
    InterpreterSlot.all.map (fun s => (s.offset, s.label)) ++ [
    (InterpreterSlot.monitors.offset, "interpreter_frame_monitor_block_top"),
    (InterpreterSlot.monitors.offset, "interpreter_frame_monitor_block_bottom")]
  slots.filterMap fun (k, label) => SlotDescription.at? v f.fp k label

/-- Log the frame and all fixed words around its `fp`. -/
def logRaw (f : Frame) : Inspection Unit := do
  Inspection.log .debug f.text
  (f.rawSlots (← Inspection.stack)).forM fun d => Inspection.log .debug ("  " ++ d.text)

end Frame

end StackWalk
