import StackWalk.Proofs.Frame.Built
import StackWalk.Proofs.Stack.Write
import StackWalk.Frame.Patch

/-!
# What a patch does

A successful patch has stored one word, the new pc in the return slot of the frame, and it
answers the frame with that pc (`IsPatched`). The conditions under which it succeeds are
exactly those listed there (`patch_ending_eq_ok_iff`).
-/

set_option autoImplicit false

namespace StackWalk.Frame

open Inspection

/-- The frame `t` and the memory `w` are what becomes of `f` and `v` when `pc` is patched into
the return slot of `f`, at `slot`, which held the word `held`. -/
structure IsPatched (f : Frame) (ctx : WalkContext) (pc : Word) (v : StackView)
    (slot held : Word) (t : Frame) (w : StackView) : Prop where
  sameCode : (ctx.code pc).map (·.id) = f.region.map (·.id)
  below : f.sp.below? = some slot
  before : v.read? slot = some held
  ordinary : ctx.isBarrier held = false
  own : f.maySlotHold pc held = true
  stored : v.write? slot pc = some w
  patched : t = f.withRawPc pc w
  saved : t.deoptimizedPc.all (· = f.pc) = true
  verified : ctx.config.verifyPatched = true → t.region.any (·.isDeoptStub) = false →
    (ctx.frameOn w t.sp t.unextendedSp t.fp t.rawPc).agreesOnPc t = true

variable {f t : Frame} {ctx : WalkContext} {pc slot held : Word} {v w : StackView}

section Fields

variable (p : f.IsPatched ctx pc v slot held t w)

include p

theorem IsPatched.region_eq : t.region = f.region := by
  rw [p.patched]
  rfl

theorem IsPatched.sp_eq : t.sp = f.sp := by
  rw [p.patched]
  rfl

theorem IsPatched.rawPc_eq : t.rawPc = pc := by
  rw [p.patched]
  rfl

/-- The new pc is found in the return slot. -/
theorem IsPatched.read?_slot : w.read? slot = some pc := by
  rw [StackView.read?_of_write? p.stored, if_pos rfl]

end Fields

/-- Verification passes a frame that is the one built afresh, or for which nobody asks, and
it changes nothing. -/
theorem verifyPatched_ending_eq_ok_iff {a : Unit} :
    (t.verifyPatched ctx).ending v = (.ok a, w) ↔
      v = w ∧ (ctx.config.verifyPatched = true → t.region.any (·.isDeoptStub) = false →
        (ctx.frameOn v t.sp t.unextendedSp t.fp t.rawPc).agreesOnPc t = true) := by
  rw [verifyPatched]
  cases ctx.config.verifyPatched with
  | false => simp
  | true =>
      cases t.region.any (·.isDeoptStub) with
      | true => simp
      | false =>
          rw [Bool.not_false, Bool.and_self, if_pos rfl, ending_bind_ok (ctx.frameWith_ending ..),
            ending_require]
          cases (ctx.frameOn v t.sp t.unextendedSp t.fp t.rawPc).agreesOnPc t <;> simp

/-- The part of a patch that comes after the return slot was read. -/
def overwrite (f : Frame) (ctx : WalkContext) (pc slot held : Word) : Inspection Frame := do
  require (!ctx.isBarrier held) .patchedBarrier
  require (f.maySlotHold pc held) (.foreignReturnSlot held f.pc pc)
  let _ ← write slot pc
  let patched := f.withRawPc pc (← stack)
  require (patched.deoptimizedPc.all (· = f.pc)) .savedPcDiffers
  patched.verifyPatched ctx
  return patched

/-- A patch with a pc of the same code comes to this part if the slot can be read. -/
theorem patch_ending_of_slot (sameCode : (ctx.code pc).map (·.id) = f.region.map (·.id))
    (below : f.sp.below? = some slot) (before : v.read? slot = some held) :
    (f.patch ctx pc).ending v = (f.overwrite ctx pc slot held).ending v := by
  rw [patch, ending_bind_ok (ctx.lookup_ending pc v), ending_require_bind,
    if_pos (decide_eq_true sameCode), ending_orError_bind, below]
  simp only []
  rw [ending_bind_ok (ending_stack v), ending_orError_bind, before]
  -- the message of a traced patch is no part of its ending
  cases ctx.config.tracePatching <;> rfl

theorem overwrite_ending_eq_ok_iff (before : v.read? slot = some held) :
    (f.overwrite ctx pc slot held).ending v = (.ok t, w) ↔
    ctx.isBarrier held = false ∧ f.maySlotHold pc held = true ∧ v.write? slot pc = some w ∧
      t = f.withRawPc pc w ∧ t.deoptimizedPc.all (· = f.pc) = true ∧
        (ctx.config.verifyPatched = true → t.region.any (·.isDeoptStub) = false →
          (ctx.frameOn w t.sp t.unextendedSp t.fp t.rawPc).agreesOnPc t = true) := by
  obtain ⟨u, hu⟩ := StackView.exists_write? (StackView.contains_of_read? before) pc
  have store : (write slot pc).ending v = (.ok true, u) := by
    rw [ending_write, hu]
    rfl
  rw [overwrite, ending_require_bind_eq_ok_iff, ending_require_bind_eq_ok_iff,
    ending_bind_ok store, ending_bind_ok (ending_stack u), ending_require_bind_eq_ok_iff,
    Bool.not_eq_true', ending_bind_eq_ok_iff, hu]
  constructor
  · rintro ⟨ordinary, own, saved, _, x, verified, ends⟩
    obtain ⟨rfl, agrees⟩ := verifyPatched_ending_eq_ok_iff.1 verified
    cases ends
    exact ⟨ordinary, own, rfl, rfl, saved, agrees⟩
  · rintro ⟨ordinary, own, same, rfl, saved, verified⟩
    cases same
    exact ⟨ordinary, own, saved, (), w, verifyPatched_ending_eq_ok_iff.2 ⟨rfl, verified⟩, rfl⟩

/-- A patch succeeds exactly if it does what it promises. -/
theorem patch_ending_eq_ok_iff :
    (f.patch ctx pc).ending v = (.ok t, w) ↔ ∃ slot held, f.IsPatched ctx pc v slot held t w := by
  constructor
  · intro h
    have reads := h
    rw [patch, ending_bind_ok (ctx.lookup_ending pc v), ending_require_bind_eq_ok_iff,
      decide_eq_true_eq, ending_orError_bind_eq_ok_iff] at reads
    obtain ⟨sameCode, slot, below, reads⟩ := reads
    rw [ending_bind_ok (ending_stack v), ending_orError_bind_eq_ok_iff] at reads
    obtain ⟨held, before, -⟩ := reads
    rw [patch_ending_of_slot sameCode below before, overwrite_ending_eq_ok_iff before] at h
    obtain ⟨ordinary, own, stored, patched, saved, verified⟩ := h
    exact ⟨slot, held, sameCode, below, before, ordinary, own, stored, patched, saved, verified⟩
  · rintro ⟨slot, held, p⟩
    rw [patch_ending_of_slot p.sameCode p.below p.before, overwrite_ending_eq_ok_iff p.before]
    exact ⟨p.ordinary, p.own, p.stored, p.patched, p.saved, p.verified⟩

end StackWalk.Frame
