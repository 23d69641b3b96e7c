import StackWalk.Proofs.Frame.Built
import StackWalk.Proofs.Frame.Record

/-!
# Sizes of plausible frames

A frame of the interpreter holds the operand stack of its method and little more: the slack of
the configuration is the number of words by which it may exceed that stack. An element of the
operand stack takes one word, so a frame should have at most `operandBytes` bytes.

The size test grants more. It takes the bytes of the operand stack for words, and it leaves out
of account what the frame has beyond its whole words. In exact arithmetic a plausible frame may
exceed the limit by another seven words for each element and by seven bytes, and it is for no
smaller excess that a frame is refused (`isPlausible_iff_recordBytes_le`). Already for a method
with one element there are plausible frames above the limit (`LargeFrame.operandBytes_lt`).
-/

set_option autoImplicit false

namespace StackWalk

namespace Frame

variable {f : Frame} {ctx : WalkContext} {v : StackView} {m : Method} {slack a : Word}

/-- Size of the frame in bytes, measured from its unextended stack pointer. -/
def recordBytes (f : Frame) : Nat := f.fp.toNat - f.unextendedSp.toNat

/-- Size in bytes of the operand stack of `m` and of the slack. -/
def operandBytes (m : Method) (slackWords : Word) : Nat :=
  (slackWords.toNat + m.maxStack.toNat) * wordBytes

/-- The size test in bytes. -/
theorem recordWords_le_iff_recordBytes_le :
    f.recordWords ≤ (wordsLimit m slack).toNat ↔
      f.recordBytes ≤ operandBytes m slack + 56 * m.maxStack.toNat + 7 := by
  rw [recordWords_le_iff, recordBytes, operandBytes, wordBytes]
  omega

/-- The distances of the stack pointers from the frame pointer, in bytes. -/
theorem keepsDistance_iff :
    f.KeepsDistance m ctx ↔
      f.sp.toNat + 72 ≤ f.fp.toNat ∧
        f.recordBytes ≤ operandBytes m ctx.config.slackWords + 56 * m.maxStack.toNat + 7 := by
  rw [← recordWords_le_iff_recordBytes_le]
  exact ⟨fun h => ⟨h.room, h.size⟩, fun h => ⟨h.1, h.2⟩⟩

/-- A frame whose record names the method `m` is plausible exactly if it has the record of a
frame of `m`, with room for it above the stack pointer, and exceeds the operand stack and the
slack by at most seven words for each element of the operand stack and seven bytes. -/
theorem isPlausible_iff_recordBytes_le (recorded : f.slotWord? v .method = some a)
    (known : ctx.metadata.method? a = some m) :
    f.isPlausible ctx v = true ↔
      f.sp ≠ 0 ∧ f.sp.isAligned = true ∧ f.HasRecordOf m ctx v ∧
        f.sp.toNat + 72 ≤ f.fp.toNat ∧
          f.recordBytes ≤ operandBytes m ctx.config.slackWords + 56 * m.maxStack.toNat + 7 := by
  have named : (f.slotWord? v .method).bind ctx.metadata.method? = some m := by
    rw [recorded, Option.bind_some, known]
  rw [isPlausible_iff]
  constructor
  · rintro ⟨nonzero, aligned, m', record, keeps⟩
    -- there is only one method in the record
    obtain rfl : m' = m := Option.some.inj (record.method.symm.trans named)
    exact ⟨nonzero, aligned, record, keepsDistance_iff.1 keeps⟩
  · rintro ⟨nonzero, aligned, record, distance⟩
    exact ⟨nonzero, aligned, m, record, keepsDistance_iff.2 distance⟩

end Frame

/-! ## A frame above the limit -/

namespace LargeFrame

/-- A method whose operand stack holds one element. -/
def method : Method := ⟨0xa000, 0x10, 1, .void, false⟩

def context : WalkContext where
  code := (CodeMap.mk { CodeTable.empty with regions := [.ofCode 0 .interpreter 0x6000 0x1000] }
    []).classify
  metadata := ⟨fun a => if a = 0x9000 then some method else none, fun a => a = 0x9100⟩
  continuations := none
  config := { WalkConfig.standard with slackWords := 9 }
  isOwner := false

def view : StackView where
  memory :=
    { low := 0xd000
      low_aligned := rfl
      block := ⟨#[
        -- up to the record
        0, 0, 0, 0, 0, 0, 0, 0, 0,
        -- the record from the bytecode pointer on, and what lies above it
        0xa000, 0xd090, 0x9100, 0, 0, 0x9000, 0, 0, 0, 0, 0]⟩ }
  bounds := ⟨0xd0a0, 0xd000, 0⟩
  fits := by decide

/-- A frame of seventeen words. -/
def frame : Frame := context.frameOn view 0xd000 0xd000 0xd088 0x6010

/-- The frame is accepted, although the operand stack and the slack come to ten words. -/
theorem operandBytes_lt :
    frame.isPlausible context view = true ∧ frame.slotWord? view .method = some 0x9000 ∧
      context.metadata.method? 0x9000 = some method ∧
        Frame.operandBytes method context.config.slackWords < frame.recordBytes :=
  ⟨rfl, rfl, rfl, by decide⟩

/-- A frame of eighteen words would be refused. -/
theorem recordBytes_le :
    frame.slotWord? view .method = some 0x9000 ∧
      context.metadata.method? 0x9000 = some method ∧ frame.HasRecordOf method context view ∧
        frame.recordBytes ≤ 143 := by
  have accepted : frame.isPlausible context view = true := rfl
  obtain ⟨-, -, record, -, size⟩ :=
    (Frame.isPlausible_iff_recordBytes_le (a := 0x9000) (m := method) rfl rfl).1 accepted
  exact ⟨rfl, rfl, record, size⟩

end LargeFrame

end StackWalk
