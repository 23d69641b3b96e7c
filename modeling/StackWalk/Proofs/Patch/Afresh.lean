import StackWalk.Proofs.Patch.Callee

/-!
# A patched frame and the same frame built afresh

A patch derives the frame from what it was before: it keeps the registers, the code and the
kind, takes the new pc and looks for the pc that was saved. Building a frame afresh derives all
of this from the registers and the stack. For a frame that was built in a context and has only
been patched since, both come to the same, if every region has an id of its own. The one
exception is made on purpose: a frame in the deoptimization stub, where no pc is saved, counts
as deoptimized when it is built and as an ordinary one when it is patched.

So the comparison of the two that a patch can be asked to make never fails
(`patch_ending_of_isKeptIn`), and a patch that succeeds does what it promises
(`patch_agrees_with_fresh`).
-/

set_option autoImplicit false

namespace StackWalk

open Inspection

namespace Frame

variable {f t : Frame} {ctx : WalkContext} {pc slot held : Word} {v w : StackView}

/-! ## Frames with a history of patches -/

/-- The frame was built in the context and has then been patched any number of times, each time
on whatever the stack had become. -/
inductive IsKeptIn (ctx : WalkContext) : Frame → Prop
  | built {f : Frame} (h : f.IsBuiltIn ctx) : IsKeptIn ctx f
  | patched {f t : Frame} {pc : Word} {v : StackView} (h : IsKeptIn ctx f)
      (p : ((f.patch ctx pc).run v).result = .ok t) : IsKeptIn ctx t

/-- The region and the kind of the frame are still those of its pc. -/
theorem IsKeptIn.code_and_kind (unique : ctx.HasUniqueIds) (h : IsKeptIn ctx f) :
    f.region = ctx.code f.rawPc ∧ f.kind = .ofRegion f.region := by
  induction h with
  | built h => exact ⟨h.region_eq, h.kind_eq⟩
  | @patched f t pc v h p ih =>
      obtain ⟨slot, held, patched⟩ := patch_ending_eq_ok_iff.1 (Prod.ext p rfl)
      have code := code_eq_region unique ih.1 patched.sameCode
      rw [patched.patched]
      exact ⟨code.symm, ih.2⟩

/-! ## The comparison -/

/-- Built afresh, a frame in the stub is at its own pc if none was saved. -/
theorem deoptimizedPcIn_of_isUnsavedInStub {region : Option CodeRegion} {unextendedSp : Word}
    (h : IsUnsavedInStub region pc unextendedSp v) :
    deoptimizedPcIn region pc unextendedSp v = some pc := by
  obtain ⟨stub, unsaved⟩ := h
  cases region with
  | none => cases stub
  | some r =>
      rw [Option.any_some] at stub
      rw [Option.bind_some] at unsaved
      simp [deoptimizedPcIn, stub, unsaved]

/-- The frame `g`, built afresh, agrees with the patched frame `t`, but for the exception that
is made for the deoptimization stub. -/
structure AgreesAfresh (g t : Frame) (w : StackView) : Prop where
  pc : g.pc = t.pc
  rawPc : g.rawPc = t.rawPc
  kind : g.kind = t.kind
  deoptimized : g.deoptimizedPc = t.deoptimizedPc ↔
    ¬ IsUnsavedInStub t.region t.rawPc t.unextendedSp w

theorem agreesAfresh_of_code (code : ctx.code pc = f.region) (kind : f.kind = .ofRegion f.region)
    (w : StackView) :
    (ctx.frameOn w f.sp f.unextendedSp f.fp pc).AgreesAfresh (f.withRawPc pc w) w := by
  have fresh : (ctx.frameOn w f.sp f.unextendedSp f.fp pc).deoptimizedPc =
      deoptimizedPcIn f.region pc f.unextendedSp w := by
    rw [← code]
    rfl
  have sameKind : (ctx.frameOn w f.sp f.unextendedSp f.fp pc).kind = f.kind := by
    rw [WalkContext.frameOn_kind, code, kind]
  by_cases unsaved : IsUnsavedInStub f.region pc f.unextendedSp w
  · have plain : (f.withRawPc pc w).deoptimizedPc = none := unsaved.2
    rw [deoptimizedPcIn_of_isUnsavedInStub unsaved] at fresh
    refine ⟨?_, rfl, sameKind, iff_of_false ?_ (not_not_intro unsaved)⟩
    · rw [Frame.pc, Frame.pc, fresh, plain]
      rfl
    · rw [fresh, plain]
      exact Option.some_ne_none pc
  · have same : (ctx.frameOn w f.sp f.unextendedSp f.fp pc).deoptimizedPc =
        (f.withRawPc pc w).deoptimizedPc :=
      fresh.trans (deoptimizedPcIn_of_not_isUnsavedInStub unsaved)
    refine ⟨?_, rfl, sameKind, iff_of_true same unsaved⟩
    rw [Frame.pc, Frame.pc, same]
    rfl

/-- Wherever it is asked for, the comparison succeeds. -/
theorem verifyPatched_ending_of_code (code : ctx.code pc = f.region)
    (kind : f.kind = .ofRegion f.region) (w : StackView) :
    ((f.withRawPc pc w).verifyPatched ctx).ending w = (.ok (), w) := by
  refine verifyPatched_ending_eq_ok_iff.2 ⟨rfl, fun _ stub => ?_⟩
  have agrees := agreesAfresh_of_code code kind w
  have same := agrees.deoptimized.2 fun unsaved =>
    Bool.false_ne_true (stub.symm.trans unsaved.1)
  rw [agreesOnPc, Bool.and_eq_true, Bool.and_eq_true, decide_eq_true_eq, decide_eq_true_eq,
    decide_eq_true_eq]
  exact ⟨⟨same, agrees.pc⟩, agrees.rawPc⟩

/-! ## The ways in which a patch ends -/

/-- The end of a patch that has read `held` from the return slot. -/
def slotPatch (f : Frame) (ctx : WalkContext) (pc slot held : Word) (v : StackView) :
    Except Failure Frame × StackView :=
  if ctx.isBarrier held then (.error (.violation .patchedBarrier), v)
  else if !f.maySlotHold pc held then
    (.error (.violation (.foreignReturnSlot held f.pc pc)), v)
  else
    let w := (v.write? slot pc).getD v
    if (f.withRawPc pc w).deoptimizedPc.all (· = f.pc) then (.ok (f.withRawPc pc w), w)
    else (.error (.violation .savedPcDiffers), w)

theorem overwrite_ending (code : ctx.code pc = f.region) (kind : f.kind = .ofRegion f.region)
    (slot held : Word) (v : StackView) :
    (f.overwrite ctx pc slot held).ending v = f.slotPatch ctx pc slot held v := by
  rw [overwrite, slotPatch, ending_require_bind]
  cases ctx.isBarrier held with
  | true => rfl
  | false =>
      rw [Bool.not_false, if_pos rfl, if_neg Bool.false_ne_true, ending_require_bind]
      cases f.maySlotHold pc held with
      | false => rfl
      | true =>
          rw [if_pos rfl, Bool.not_true, if_neg Bool.false_ne_true,
            ending_bind_ok (ending_write slot pc v), ending_bind_ok (ending_stack _),
            ending_require_bind]
          simp only [ending_bind_ok (verifyPatched_ending_of_code code kind _), ending_pure]

/-- The endings of a patch of a frame whose region and kind are those of the new pc. That the
patched frame differs from one built afresh is not among them. -/
theorem patch_ending_of_code (code : ctx.code pc = f.region)
    (kind : f.kind = .ofRegion f.region) (v : StackView) :
    (f.patch ctx pc).ending v =
      match f.sp.below? with
      | none => (.error (.error (.unreadable f.sp)), v)
      | some slot =>
          match v.read? slot with
          | none => (.error (.error (.unreadable slot)), v)
          | some held => f.slotPatch ctx pc slot held v := by
  rw [patch, ending_bind_ok (ctx.lookup_ending pc v), code, ending_require_bind,
    if_pos (decide_eq_true rfl), ending_orError_bind]
  cases f.sp.below? with
  | none => rfl
  | some slot =>
      simp only []
      rw [ending_bind_ok (ending_stack v), ending_orError_bind]
      cases v.read? slot with
      | none => rfl
      | some held =>
          have ends := overwrite_ending code kind slot held v
          -- the message of a traced patch is no part of its ending
          cases ctx.config.tracePatching <;> exact ends

/-- A patch with a pc of other code breaks a rule of use before anything is read. -/
theorem patch_ending_of_other_code (other : (ctx.code pc).map (·.id) ≠ f.region.map (·.id))
    (v : StackView) : (f.patch ctx pc).ending v = (.error (.violation (.unexpectedPc pc)), v) := by
  rw [patch, ending_bind_ok (ctx.lookup_ending pc v), ending_require_bind,
    decide_eq_false other]
  rfl

/-- What can come of a patch: a violation other than that of the comparison, an error that leaves
the stack as it was, or the patched frame. -/
inductive PatchEnds (f : Frame) (ctx : WalkContext) (pc : Word) (v : StackView) :
    Except Failure Frame × StackView → Prop
  | broken {x : Violation} {w : StackView}
      (other : ∀ fresh patched, x ≠ .patchedFrameDiffers fresh patched) :
      PatchEnds f ctx pc v (.error (.violation x), w)
  | failed (e : FrameError) : PatchEnds f ctx pc v (.error (.error e), v)
  | done (w : StackView) (code : ctx.code pc = f.region) :
      PatchEnds f ctx pc v (.ok (f.withRawPc pc w), w)

theorem patchEnds_of_slotPatch (code : ctx.code pc = f.region) (slot held : Word)
    (v : StackView) : f.PatchEnds ctx pc v (f.slotPatch ctx pc slot held v) := by
  rw [slotPatch]
  split
  · exact .broken nofun
  · split
    · exact .broken nofun
    · dsimp only
      split
      · exact .done _ code
      · exact .broken nofun

theorem patchEnds_of_isKeptIn (unique : ctx.HasUniqueIds) (kept : f.IsKeptIn ctx) (pc : Word)
    (v : StackView) : f.PatchEnds ctx pc v ((f.patch ctx pc).ending v) := by
  obtain ⟨built, kind⟩ := kept.code_and_kind unique
  by_cases same : (ctx.code pc).map (·.id) = f.region.map (·.id)
  · have code := code_eq_region unique built same
    rw [patch_ending_of_code code kind]
    split
    · exact .failed _
    · split
      · exact .failed _
      · exact patchEnds_of_slotPatch code _ _ v
  · rw [patch_ending_of_other_code same]
    exact .broken nofun

/-! ## What a patch promises -/

/-- The frame `t` and the stack `w` are what a patch promises to make of `f` and `v`: one word is
stored, the frame differs in its pcs only, and it agrees with the frame built afresh. -/
structure IsRedirectedTo (f : Frame) (ctx : WalkContext) (pc : Word) (v : StackView)
    (t : Frame) (w : StackView) : Prop where
  stored : ∃ slot, f.sp.below? = some slot ∧
    ∀ a, w.memory.get? a = if a = slot then .ok (some pc) else v.memory.get? a
  registers : t.sp = f.sp ∧ t.unextendedSp = f.unextendedSp ∧ t.fp = f.fp
  code : t.kind = f.kind ∧ t.region = f.region
  rawPc : t.rawPc = pc
  logicalPc : t.pc = if t.isDeoptimized then f.pc else pc
  afresh : ∃ g, ((ctx.frameWith f.sp f.unextendedSp f.fp pc).run w).result = .ok g ∧
    g.AgreesAfresh t w

theorem IsPatched.isRedirectedTo (code : ctx.code pc = f.region)
    (kind : f.kind = .ofRegion f.region) (p : f.IsPatched ctx pc v slot held t w) :
    f.IsRedirectedTo ctx pc v t w := by
  obtain rfl := p.patched
  refine ⟨⟨slot, p.below, StackView.memory_get?_of_write? p.stored⟩, ⟨rfl, rfl, rfl⟩,
    ⟨rfl, rfl⟩, rfl, ?_, ⟨_, rfl, agreesAfresh_of_code code kind w⟩⟩
  have saved := p.saved
  rw [Frame.pc, isDeoptimized]
  cases h : (f.withRawPc pc w).deoptimizedPc with
  | none => rfl
  | some x =>
      rw [h, Option.all_some, decide_eq_true_eq] at saved
      exact saved

/-- For a frame that was built in the context and only patched since, the comparison with the
frame built afresh never fails, whether or not it is asked for. A patch that succeeds does what
it promises, and one that answers with an error has changed nothing. -/
theorem patch_agrees_with_fresh (unique : ctx.HasUniqueIds) (kept : f.IsKeptIn ctx) (pc : Word)
    (v : StackView) :
    (∀ fresh patched, ((f.patch ctx pc).run v).result ≠
        .error (.violation (.patchedFrameDiffers fresh patched))) ∧
      (∀ t, ((f.patch ctx pc).run v).result = .ok t →
        f.IsRedirectedTo ctx pc v t ((f.patch ctx pc).run v).stack) ∧
      ∀ e, ((f.patch ctx pc).run v).result = .error (.error e) →
        ((f.patch ctx pc).run v).stack = v := by
  have ends := patchEnds_of_isKeptIn unique kept pc v
  rcases h : (f.patch ctx pc).ending v with ⟨result, w⟩
  rw [h] at ends
  rw [result_of_ending h, stack_of_ending h]
  -- of a result of one sort nothing is promised for the other two
  cases ends with
  | broken other =>
      refine ⟨fun fresh patched same => ?_, by simp, by simp⟩
      cases same
      exact other fresh patched rfl
  | failed e => exact ⟨by simp, by simp, fun _ _ => rfl⟩
  | done w code =>
      refine ⟨by simp, fun t same => ?_, by simp⟩
      cases same
      obtain ⟨slot, held, p⟩ := patch_ending_eq_ok_iff.1 h
      exact p.isRedirectedTo code (kept.code_and_kind unique).2

end Frame

/-! ## A frame that was redirected and is sent back -/

namespace RedirectedCaller

/-- The stack some time after the redirection. Another word has been stored. -/
def later : StackView := after.putAt 0xa000 0 7

/-- The caller, sent back to the pc that was saved for it. -/
def returned : Frame := { redirected with rawPc := 0x5010, deoptimizedPc := none }

theorem returned_agrees :
    context.HasUniqueIds ∧ redirected.IsKeptIn context ∧
      ((redirected.patch context 0x5010).run later).result = .ok returned ∧
        redirected.IsRedirectedTo context 0x5010 later returned
          ((redirected.patch context 0x5010).run later).stack := by
  have unique : context.HasUniqueIds := hasUniqueIds_of_table rfl (by decide)
  have built : caller.IsKeptIn context := .built (context.frameOn_isBuiltIn ..)
  have patched : ((caller.patch context 0x5040).run view).result = .ok redirected := rfl
  have kept : redirected.IsKeptIn context := .patched built patched
  have result : ((redirected.patch context 0x5010).run later).result = .ok returned := rfl
  exact ⟨unique, kept, result,
    (Frame.patch_agrees_with_fresh unique kept 0x5010 later).2.1 returned result⟩

end RedirectedCaller

end StackWalk
