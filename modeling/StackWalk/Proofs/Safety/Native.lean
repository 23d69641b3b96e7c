import StackWalk.Proofs.Frame.Caller
import StackWalk.Proofs.Stack.Write

/-!
# Safe native frames

A native frame is left through two words: the saved frame pointer at its frame pointer, and the
return address above it. The safety check makes sure of the frame pointer and reads the return
address, but it does not read the saved frame pointer. Where the memory holds the whole stack
that the bounds describe, that word can be read too, for a safe frame pointer lies in the stack.
A memory that holds only a part of the stack may begin just above it.

So the caller of a safe native frame can be computed, and lies above it, exactly if the memory
does not begin at its return address (`caller_of_safe_native_iff`). If it does, the check
accepts a frame whose caller cannot be read (`CutStack.caller_of_safe_native_fails`).
-/

set_option autoImplicit false

namespace StackWalk

open Inspection

namespace Frame

variable {f : Frame} {ctx : WalkContext} {options : WalkOptions} {v : StackView} {pc : Word}

/-! ## The words at the frame pointer -/

/-- Where the return address can be read, the memory reaches as far down as its slot and as far
up as the end of it. -/
theorem returnSlot_inside (returns : f.returnAddress? v = some pc) :
    f.fp.toNat % 8 = 0 ∧ v.memory.low.toNat ≤ f.fp.toNat + 8 ∧
      f.fp.toNat + 16 ≤ v.high.toNat := by
  obtain ⟨slot, place, read⟩ := StackView.readAt?_eq_some_iff.1 returns
  obtain ⟨aligned, above, below⟩ := StackView.contains_iff.1 (StackView.contains_of_read? read)
  have distance := (Word.offset?_eq_some_iff.1 place).2
  rw [FrameSlot.returnAddress] at distance
  rw [StackView.toNat_low] at above
  omega

/-- Then the stack pointer of the caller is an address. -/
theorem exists_callerSp (returns : f.returnAddress? v = some pc) :
    ∃ sp, f.fp.offset? FrameSlot.callerSp = some sp ∧ sp.toNat = f.fp.toNat + 16 := by
  obtain ⟨-, -, inside⟩ := returnSlot_inside returns
  have top := UInt64.toNat_lt v.high
  obtain ⟨sp, above, place⟩ :=
    Word.exists_offset? (a := f.fp) (k := FrameSlot.callerSp) (by decide)
      (by rw [FrameSlot.callerSp]; omega)
  rw [FrameSlot.callerSp] at place
  exact ⟨sp, above, by omega⟩

/-- The saved frame pointer is the word at the frame pointer. -/
theorem readAt?_link (f : Frame) (v : StackView) :
    v.readAt? f.fp FrameSlot.link = v.read? f.fp := by
  rw [FrameSlot.link, StackView.readAt?, Word.offset?_zero, Option.bind_some]

/-- Below the return address of a frame pointer in the stack there is the saved frame pointer,
unless the memory begins between them. -/
theorem contains_fp_iff (sp : f.stackPointersAreSafe v.bounds = true)
    (fp : f.framePointerIsSafe v.bounds = true) (returns : f.returnAddress? v = some pc) :
    v.contains f.fp = true ↔ v.memory.low ≤ f.fp := by
  obtain ⟨aligned, -, inside⟩ := returnSlot_inside returns
  obtain ⟨-, usable, -⟩ := stackPointersAreSafe_iff.1 sp
  have floor := UInt64.le_iff_toNat_le.1 (UInt64.le_trans v.bounds.floor_le_usableFloor usable)
  have above := UInt64.lt_iff_toNat_lt.1 (framePointerIsSafe_iff.1 fp).1
  rw [StackView.contains_iff, StackView.toNat_low, UInt64.le_iff_toNat_le]
  omega

/-- A memory that begins above the frame pointer begins at the return address. -/
theorem low_eq_of_fp_lt (returns : f.returnAddress? v = some pc) (cut : f.fp < v.memory.low) :
    v.memory.low.toNat = f.fp.toNat + 8 := by
  obtain ⟨aligned, below, -⟩ := returnSlot_inside returns
  have above := UInt64.lt_iff_toNat_lt.1 cut
  have start := v.memory.low_aligned
  omega

/-! ## The caller -/

/-- A native frame whose saved frame pointer cannot be read has no caller. -/
theorem caller_ending_of_unlinked {sp : Word} (native : f.kind = .native)
    (above : f.fp.offset? FrameSlot.callerSp = some sp) (unlinked : v.read? f.fp = none) :
    (f.caller ctx options).ending v = (.error (.error (.unreadable f.fp)), v) := by
  have failed : (wordAt f.fp FrameSlot.link).ending v =
      (.error (.error (.unreadable f.fp)), v) := by
    rw [wordAt_ending, readAt?_link, unlinked, FrameSlot.link, Word.offset?_zero]
    rfl
  rw [caller, native]
  show (f.nativeCaller ctx).ending v = _
  rw [nativeCaller, ending_bind_ok (addressAt_ending_of_some v above), ending_bind, failed]

/-- The caller of the frame is found two words above its frame pointer, and above the frame
itself. It has a pc, and the stack is as it was. -/
def ReturnsAbove (f : Frame) (ctx : WalkContext) (options : WalkOptions) (v : StackView) :
    Prop :=
  ∃ s, (f.caller ctx options).ending v = (.ok s, v) ∧ s.sp.toNat = f.fp.toNat + 16 ∧
    f.sp < s.sp ∧ s.rawPc ≠ 0

theorem returnsAbove_of_linked {fp : Word} (native : f.kind = .native) (based : f.sp < f.fp)
    (returns : f.returnAddress? v = some pc) (running : pc ≠ 0)
    (linked : v.read? f.fp = some fp) : f.ReturnsAbove ctx options v := by
  obtain ⟨sp, hsp, distance⟩ := exists_callerSp returns
  rw [← readAt?_link] at linked
  refine ⟨_, caller_ending_of_native native hsp linked returns ctx options, distance, ?_, running⟩
  exact UInt64.lt_trans based (Word.lt_of_offset? hsp (by decide))

/-- A safe native frame leads to a frame above it, unless the memory begins at its return
address. In that case the saved frame pointer cannot be read, and this is the answer. -/
theorem caller_of_safe_native_iff (built : f.IsBuiltIn ctx) (native : f.kind = .native)
    (safe : ((f.callerIsSafe ctx).run v).result = .ok true) :
    (f.ReturnsAbove ctx options v ↔ v.memory.low ≤ f.fp) ∧
      (f.fp < v.memory.low → v.memory.low.toNat = f.fp.toNat + 8 ∧
        (f.caller ctx options).ending v = (.error (.error (.unreadable f.fp)), v)) := by
  obtain ⟨sp, fp, pc, returns, running⟩ :=
    (verdict_native_iff (built.region_eq_none native)).1 (callerIsSafe_eq_true_iff.1 safe)
  have readable := contains_fp_iff sp fp returns
  have fails : f.fp < v.memory.low →
      (f.caller ctx options).ending v = (.error (.error (.unreadable f.fp)), v) := by
    intro cut
    obtain ⟨callerSp, above, -⟩ := exists_callerSp returns
    refine caller_ending_of_unlinked native above (StackView.read?_eq_none_of_not_contains ?_)
    exact Bool.eq_false_iff.2 (mt readable.1 (UInt64.not_le.2 cut))
  refine ⟨⟨?_, ?_⟩, fun cut => ⟨low_eq_of_fp_lt returns cut, fails cut⟩⟩
  · rintro ⟨s, computed, -⟩
    refine UInt64.not_lt.1 fun cut => ?_
    cases computed.symm.trans (fails cut)
  · intro whole
    obtain ⟨link, linked⟩ := StackView.exists_read? (readable.2 whole)
    exact returnsAbove_of_linked native (framePointerIsSafe_iff.1 fp).1 returns running linked

end Frame

/-! ## A part of a stack -/

namespace CutStack

/-- No code is known. -/
def context : WalkContext where
  code _ := none
  metadata := .unknown
  continuations := none
  config := .standard
  isOwner := false

/-- The upper part of a stack whose lowest address is `0xdf00`. It begins with the return address
of a frame. -/
def view : StackView where
  memory :=
    { low := 0xe000
      low_aligned := rfl
      block := ⟨#[0x4444, 0, 0xe028, 0x5555, 0, 0]⟩ }
  bounds := ⟨0xe030, 0xdf00, 0⟩
  fits := by decide

/-- The frame to which that return address belongs. -/
def lower : Frame := context.frameOn view 0xdff0 0xdff0 0xdff8 0x1234

/-- The frame to which it returns. -/
def upper : Frame := context.frameOn view 0xe008 0xe008 0xe010 0x4444

/-- The lower frame passes the safety check, yet its saved frame pointer cannot be read. -/
theorem caller_of_safe_native_fails :
    lower.IsBuiltIn context ∧ lower.kind = .native ∧
      ((lower.callerIsSafe context).run view).result = .ok true ∧
        ((lower.caller context ⟨false⟩).run view).result = .error (.error (.unreadable 0xdff8)) :=
  ⟨context.frameOn_isBuiltIn .., rfl, rfl, rfl⟩

/-- The upper frame passes as well, and leads to a frame above it. -/
theorem returnsAbove_of_upper :
    upper.IsBuiltIn context ∧ upper.kind = .native ∧
      ((upper.callerIsSafe context).run view).result = .ok true ∧
        upper.ReturnsAbove context ⟨false⟩ view :=
  ⟨context.frameOn_isBuiltIn .., rfl, rfl,
    (Frame.caller_of_safe_native_iff (context.frameOn_isBuiltIn ..) rfl rfl).1.2 (by decide)⟩

end CutStack

end StackWalk
