import StackWalk.Frame.Interpreted

/-!
# Plausible frames

A frame of the interpreter looks plausible if two things hold. Its frame pointer leads to a
record with a method, a bytecode pointer, a cache and locals; that depends on the frame
pointer alone (`HasRecordOf.of_fp_eq`). And its stack pointers keep a distance from its frame
pointer: the stack pointer leaves room for the record, and the size of the frame, measured
from the unextended one, is not too large for the method (`isPlausible_iff`).
-/

set_option autoImplicit false

namespace StackWalk.Frame

variable {f s : Frame} {ctx : WalkContext} {v : StackView} {m : Method}

/-- The frame pointer of an interpreted frame leads to the record of a frame of `m`. -/
structure HasRecordOf (f : Frame) (m : Method) (ctx : WalkContext) (v : StackView) : Prop where
  interpreted : f.kind = .interpreted
  nonzero : f.fp ≠ 0
  aligned : f.fp.isAligned = true
  method : (f.slotWord? v .method).bind ctx.metadata.method? = some m
  bytecode : (f.slotWord? v .bytecode).any (fun pointer => (m.indexOf? pointer).isSome) = true
  cache : (f.slotWord? v .cache).any ctx.metadata.isMetadata = true
  locals : (f.slotWord? v .locals).any (v.bounds.isFrom f.fp) = true

/-- The stack pointer of the frame is at or below the nine words of its record, and the size
of the frame is one that a frame of `m` may have. -/
structure KeepsDistance (f : Frame) (m : Method) (ctx : WalkContext) : Prop where
  room : f.sp.toNat + 72 ≤ f.fp.toNat
  size : f.recordWords ≤ (wordsLimit m ctx.config.slackWords).toNat

/-- The record depends on the frame pointer alone. -/
theorem HasRecordOf.of_fp_eq (h : f.HasRecordOf m ctx v) (hk : s.kind = f.kind)
    (hfp : s.fp = f.fp) : s.HasRecordOf m ctx v := by
  have word : s.slotWord? v = f.slotWord? v := by
    funext slot
    rw [slotWord?, slotWord?, hfp]
  constructor
  · exact hk.trans h.interpreted
  · exact hfp ▸ h.nonzero
  · exact hfp ▸ h.aligned
  · exact word ▸ h.method
  · exact word ▸ h.bytecode
  · exact word ▸ h.cache
  · exact hfp ▸ word ▸ h.locals

theorem KeepsDistance.of_le (h : f.KeepsDistance m ctx) (hfp : s.fp = f.fp) (hsp : s.sp ≤ f.sp)
    (husp : f.unextendedSp ≤ s.unextendedSp) : s.KeepsDistance m ctx := by
  have sp := UInt64.le_iff_toNat_le.1 hsp
  have usp := UInt64.le_iff_toNat_le.1 husp
  obtain ⟨room, size⟩ := h
  rw [recordWords, Word.toNat_saturatingSub, wordBytes] at size
  constructor
  · rw [hfp]
    omega
  · rw [recordWords, Word.toNat_saturatingSub, wordBytes, hfp]
    omega

/-- The size test cuts both sides of the comparison off where words end; that makes no
difference. -/
theorem recordWords_le_iff {slack : Word} :
    f.recordWords ≤ (wordsLimit m slack).toNat ↔
      (f.fp.toNat - f.unextendedSp.toNat) / 8 ≤ 8 * m.maxStack.toNat + slack.toNat := by
  have h := UInt64.toNat_lt f.fp
  rw [recordWords, wordsLimit, Word.toNat_saturatingSub, Word.toNat_saturatingAdd,
    Word.toNat_saturatingMul, wordBytes]
  have h8 : (8 : UInt64).toNat = 8 := rfl
  rw [h8]
  omega

theorem hasRecordRoom_iff :
    f.hasRecordRoom = true ↔
      f.fp ≠ 0 ∧ f.fp.isAligned = true ∧ f.sp ≠ 0 ∧ f.sp.isAligned = true ∧
        f.sp.toNat + 72 ≤ f.fp.toNat := by
  have record : (∃ a, f.fp.offset? InterpreterSlot.monitors.offset = some a ∧ f.sp ≤ a) ↔
      f.sp.toNat + 72 ≤ f.fp.toNat := by
    simp only [InterpreterSlot.offset, Word.offset?_eq_some_iff, UInt64.le_iff_toNat_le]
    constructor
    · rintro ⟨a, ⟨-, ha⟩, h⟩
      omega
    · intro h
      have := UInt64.toNat_lt f.fp
      obtain ⟨a, -, ha⟩ := Word.exists_offset? (a := f.fp) (k := -9) (by omega) (by omega)
      exact ⟨a, ⟨by omega, ha⟩, by omega⟩
  simp only [hasRecordRoom, Bool.and_eq_true, decide_eq_true_eq, Option.any_eq_true, record]
  constructor
  · rintro ⟨⟨⟨⟨⟨fp, fpAligned⟩, sp⟩, spAligned⟩, room⟩, -⟩
    exact ⟨fp, fpAligned, sp, spAligned, room⟩
  · rintro ⟨fp, fpAligned, sp, spAligned, room⟩
    exact ⟨⟨⟨⟨⟨fp, fpAligned⟩, sp⟩, spAligned⟩, room⟩, UInt64.lt_iff_toNat_lt.2 (by omega)⟩

/-- A plausible frame has a record, and stack pointers that suit it. -/
theorem isPlausible_iff :
    f.isPlausible ctx v = true ↔
      f.sp ≠ 0 ∧ f.sp.isAligned = true ∧
        ∃ m, f.HasRecordOf m ctx v ∧ f.KeepsDistance m ctx := by
  rw [isPlausible, Bool.and_eq_true, Bool.and_eq_true, hasRecordRoom_iff, Option.any_eq_true]
  simp only [isInterpreted, decide_eq_true_eq, recordFits, Bool.and_eq_true]
  constructor
  · rintro ⟨⟨kind, fp, fpAligned, sp, spAligned, room⟩, m, method,
      ⟨⟨size, bytecode⟩, cache⟩, locals⟩
    exact ⟨sp, spAligned, m, ⟨kind, fp, fpAligned, method, bytecode, cache, locals⟩, room, size⟩
  · rintro ⟨sp, spAligned, m, record, room, size⟩
    exact ⟨⟨record.interpreted, record.nonzero, record.aligned, sp, spAligned, room⟩, m,
      record.method, ⟨⟨size, record.bytecode⟩, record.cache⟩, record.locals⟩

end StackWalk.Frame
