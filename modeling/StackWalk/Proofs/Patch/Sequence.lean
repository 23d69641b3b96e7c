import StackWalk.Proofs.Patch.Callee

/-!
# Patches in sequence

A patch looks at the word in the return slot, which it is about to overwrite, and at the pcs that
earlier patches left in the frame. So it is not plain that a second patch of a frame is admitted,
nor what comes of it.

To patch a frame again with the same pc changes nothing, neither in the frame nor on the stack.
Only the return barrier cannot be patched over (`patch_repeats`).

A frame that is not deoptimized and has its pc in its return slot can be sent back to that pc
after any number of patches, unless the last of them sent it to the barrier. It is then the frame
that it was, on the stack as it was (`IsRepatched.patch_ending`, `patch_back`). What carries this
through the patches is that each frame differs from the first one in its pcs only, and each stack
in the return slot, which holds the raw pc (`DiffersInPc`).
-/

set_option autoImplicit false

namespace StackWalk

open Inspection

namespace Frame

variable {f t u : Frame} {ctx : WalkContext} {pc slot held : Word} {v w x : StackView}

/-! ## The same pc again -/

/-- A frame that returns to the barrier cannot be patched. -/
theorem patch_ending_of_barrier (sameCode : (ctx.code pc).map (·.id) = f.region.map (·.id))
    (below : f.sp.below? = some slot) (before : v.read? slot = some held)
    (barrier : ctx.isBarrier held = true) :
    (f.patch ctx pc).ending v = (.error (.violation .patchedBarrier), v) := by
  rw [patch_ending_of_slot sameCode below before, overwrite, ending_require_bind, barrier]
  rfl

/-- What the first patch promised holds of the second one, between the patched frame and itself. -/
theorem IsPatched.again (p : f.IsPatched ctx pc v slot held t w)
    (ordinary : ctx.isBarrier pc = false) : t.IsPatched ctx pc w slot pc t w := by
  constructor
  · rw [p.region_eq]
    exact p.sameCode
  · rw [p.sp_eq]
    exact p.below
  · exact p.read?_slot
  · exact ordinary
  · simp [maySlotHold]
  · exact StackView.write?_same p.read?_slot
  · rw [p.patched]
    rfl
  · -- the logical pc of a deoptimized frame is the one that was saved
    rw [Frame.pc]
    cases t.deoptimizedPc with
    | none => rfl
    | some saved => exact decide_eq_true rfl
  · exact p.verified

/-- Patched with the same pc again, a frame and its stack stay as they are. If that pc is the
return barrier, which a null pc never is, the second patch breaks a rule of use instead. -/
theorem patch_repeats (once : (f.patch ctx pc).ending v = (.ok t, w)) :
    (t.patch ctx pc).ending w =
      if ctx.isBarrier pc then (.error (.violation .patchedBarrier), w) else (.ok t, w) := by
  obtain ⟨slot, held, p⟩ := patch_ending_eq_ok_iff.1 once
  cases barrier : ctx.isBarrier pc with
  | true =>
      have sameCode : (ctx.code pc).map (·.id) = t.region.map (·.id) := by
        rw [p.region_eq]
        exact p.sameCode
      have below : t.sp.below? = some slot := by
        rw [p.sp_eq]
        exact p.below
      exact patch_ending_of_barrier sameCode below p.read?_slot barrier
  | false => exact patch_ending_eq_ok_iff.2 ⟨slot, pc, p.again barrier⟩

/-! ## Back to the first pc -/

/-- The frame is the one that is built on the stack as it is. It is not deoptimized, and its
return slot holds its pc. -/
structure IsUnpatched (f : Frame) (ctx : WalkContext) (v : StackView) (slot : Word) : Prop where
  built : f = ctx.frameOn v f.sp f.unextendedSp f.fp f.rawPc
  plain : f.deoptimizedPc = none
  below : f.sp.below? = some slot
  held : v.read? slot = some f.rawPc

/-- The frame `t` and the stack `w` are what any number of patches, one after the other, have
made of `f` and `v`. Nothing else has happened to the stack. -/
inductive IsRepatched (ctx : WalkContext) (f : Frame) (v : StackView) : Frame → StackView → Prop
  | start : IsRepatched ctx f v f v
  | patch {t u : Frame} {w x : StackView} {pc : Word} (h : IsRepatched ctx f v t w)
      (p : (t.patch ctx pc).ending w = (.ok u, x)) : IsRepatched ctx f v u x

/-- The frame `t` differs from `f` in its pcs only, and the stack `w` from `v` in the return
slot, which holds the raw pc of `t`. -/
structure DiffersInPc (f t : Frame) (slot : Word) (v w : StackView) : Prop where
  frame : t = { f with rawPc := t.rawPc, deoptimizedPc := t.deoptimizedPc }
  stored : v.write? slot t.rawPc = some w

/-- One more patch keeps to that. -/
theorem DiffersInPc.patched (d : f.DiffersInPc t slot v w) (below : f.sp.below? = some slot)
    (p : (t.patch ctx pc).ending w = (.ok u, x)) : f.DiffersInPc u slot v x := by
  obtain ⟨slot', held, p⟩ := patch_ending_eq_ok_iff.1 p
  have same : slot' = slot := by
    have place := p.below
    rw [d.frame] at place
    exact Option.some.inj (place.symm.trans below)
  have stored := p.stored
  rw [same, StackView.write?_of_write? d.stored] at stored
  rw [p.patched]
  refine ⟨?_, stored⟩
  rw [d.frame]
  rfl

theorem IsRepatched.differsInPc (h : IsRepatched ctx f v t w) (start : f.IsUnpatched ctx v slot) :
    f.DiffersInPc t slot v w := by
  induction h with
  | start => exact ⟨rfl, StackView.write?_same start.held⟩
  | patch _ p ih => exact ih.patched start.below p

/-- A frame that is not deoptimized has no saved pc. -/
theorem savedPc?_of_deoptimizedPcIn {region : Option CodeRegion} {unextendedSp : Word}
    (plain : deoptimizedPcIn region pc unextendedSp v = none) :
    region.bind (·.savedPc? pc unextendedSp v) = none := by
  cases region with
  | none => rfl
  | some r =>
      rw [deoptimizedPcIn, Option.orElse_eq_none] at plain
      exact plain.1

/-- A patch with its own pc would make no other frame of an unpatched one. -/
theorem IsUnpatched.withRawPc_eq (start : f.IsUnpatched ctx v slot) :
    f.withRawPc f.rawPc v = f := by
  have region : f.region = ctx.code f.rawPc := congrArg Frame.region start.built
  have fresh := congrArg Frame.deoptimizedPc start.built
  rw [start.plain] at fresh
  have unsaved := savedPc?_of_deoptimizedPcIn fresh.symm
  rw [withRawPc, region, unsaved, ← region, ← start.plain]

/-- The frame can be sent back from wherever patches have taken it. -/
theorem DiffersInPc.isPatched (d : f.DiffersInPc t slot v w) (start : f.IsUnpatched ctx v slot)
    (ordinary : ctx.isBarrier t.rawPc = false) :
    t.IsPatched ctx f.rawPc w slot t.rawPc f v := by
  have region : t.region = ctx.code f.rawPc := by
    rw [d.frame]
    exact congrArg Frame.region start.built
  have sp : t.sp = f.sp := by rw [d.frame]
  constructor
  · rw [region]
  · rw [sp]
    exact start.below
  · rw [StackView.read?_of_write? d.stored, if_pos rfl]
  · exact ordinary
  · simp [maySlotHold]
  · rw [StackView.write?_of_write? d.stored]
    exact StackView.write?_same start.held
  · rw [d.frame]
    exact start.withRawPc_eq.symm
  · rw [start.plain]
    rfl
  · intro _ _
    rw [← start.built]
    simp [agreesOnPc]

theorem IsRepatched.patch_ending (h : IsRepatched ctx f v t w) (start : f.IsUnpatched ctx v slot)
    (ordinary : ctx.isBarrier t.rawPc = false) :
    (t.patch ctx f.rawPc).ending w = (.ok f, v) :=
  patch_ending_eq_ok_iff.2 ⟨slot, _, (h.differsInPc start).isPatched start ordinary⟩

/-- A frame that was built on the stack as it is, is not deoptimized and has its pc in its return
slot can be patched back: the frame and the stack are then as they were. Only from the return
barrier there is no way back. -/
theorem patch_back {sp unextendedSp fp q : Word}
    (built : ((ctx.frameWith sp unextendedSp fp pc).run v).result = .ok f)
    (plain : f.isDeoptimized = false) (below : f.sp.below? = some slot)
    (holds : v.memory.get? slot = .ok (some f.rawPc)) (ordinary : ctx.isBarrier q = false)
    (patched : (f.patch ctx q).ending v = (.ok t, w)) :
    (t.patch ctx f.rawPc).ending w = (.ok f, v) := by
  obtain ⟨slot', held, p⟩ := patch_ending_eq_ok_iff.1 patched
  -- the patch has read the slot, so the word in memory can be read
  have read : v.read? slot = some f.rawPc := by
    have before := p.before
    cases below.symm.trans p.below
    cases (StackView.memory_get?_of_read? before).symm.trans holds
    exact before
  have start : f.IsUnpatched ctx v slot := by
    refine ⟨?_, Option.not_isSome_iff_eq_none.1 (Bool.eq_false_iff.1 plain), below, read⟩
    cases built
    rfl
  rw [← p.rawPc_eq] at ordinary
  exact (IsRepatched.start.patch patched).patch_ending start ordinary

end Frame

/-! ## To the handler, again, and back -/

namespace RedirectedCaller

/-- A frame of unknown code, whose return slot is empty. -/
def stray : Frame := context.frameOn view 0xa008 0xa008 0 0x100

/-- The frame sent to the return barrier. -/
def barred : Frame := { stray with rawPc := 0x7700 }

theorem redirected_repeats :
    ((caller.patch context 0x5040).ending view = (.ok redirected, after) ∧
      (redirected.patch context 0x5040).ending after = (.ok redirected, after)) ∧
    ∃ w, (stray.patch context 0x7700).ending view = (.ok barred, w) ∧
      (barred.patch context 0x7700).ending w = (.error (.violation .patchedBarrier), w) := by
  have once : (caller.patch context 0x5040).ending view = (.ok redirected, after) := rfl
  have onceBarred : (stray.patch context 0x7700).ending view =
      (.ok barred, ((stray.patch context 0x7700).run view).stack) := rfl
  exact ⟨⟨once, Frame.patch_repeats once⟩, _, onceBarred, Frame.patch_repeats onceBarred⟩

theorem redirected_back :
    ((context.frameWith 0xa020 0xa020 0 0x5010).run view).result = .ok caller ∧
      caller.isDeoptimized = false ∧ caller.sp.below? = some 0xa018 ∧
        view.memory.get? 0xa018 = .ok (some caller.rawPc) ∧ context.isBarrier 0x5040 = false ∧
          (caller.patch context 0x5040).ending view = (.ok redirected, after) ∧
            (redirected.patch context caller.rawPc).ending after = (.ok caller, view) := by
  have built : ((context.frameWith 0xa020 0xa020 0 0x5010).run view).result = .ok caller := rfl
  have patched : (caller.patch context 0x5040).ending view = (.ok redirected, after) := rfl
  exact ⟨built, rfl, rfl, rfl, rfl, patched, Frame.patch_back built rfl rfl rfl rfl patched⟩

end RedirectedCaller

end StackWalk
