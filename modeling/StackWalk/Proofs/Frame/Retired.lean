import StackWalk.Proofs.Code.Retirement
import StackWalk.Proofs.Frame.Barrier
import StackWalk.Proofs.Inspection.Related

/-!
# The caller of a frame of retired code

Two contexts may differ in nothing but the stages of code, and two frames in nothing but the
stage of their own code. The frames then have the same caller, up to the stage of its code, or
none for the same reason, and to compute it leaves the same memory and the same events
(`WalkContext.RetiresTo.related_caller`). Each kind of caller is an inspection whose steps are
the same on both sides, but for those that build a frame (`related_frameWith`).
-/

set_option autoImplicit false

namespace StackWalk

open Inspection

/-- The contexts differ in nothing but the stages of code, none of which is an earlier one in the
second. -/
structure WalkContext.RetiresTo (ctx later : WalkContext) : Prop where
  rest : later = { ctx with code := later.code }
  code : ctx.code.RetiresTo later.code

/-- The frames differ in nothing but the stage of their code, which is not an earlier one in the
second. -/
structure Frame.RetiresTo (f later : Frame) : Prop where
  rest : later = { f with region := later.region }
  region : Option.Rel CodeRegion.RetiresTo f.region later.region

theorem WalkContext.RetiresTo.exists_code {ctx later : WalkContext} (h : ctx.RetiresTo later) :
    ∃ code : Classifier, later = { ctx with code := code } ∧ ctx.code.RetiresTo code :=
  ⟨later.code, h.rest, h.code⟩

theorem Frame.RetiresTo.refl (f : Frame) : f.RetiresTo f := by
  refine ⟨rfl, ?_⟩
  cases f.region with
  | none => exact .none
  | some r => exact .some (.refl r)

namespace Frame.RetiresTo

variable {f g : Frame} (h : f.RetiresTo g)

include h

theorem exists_region :
    ∃ region : Option CodeRegion, g = { f with region := region } ∧
      Option.Rel CodeRegion.RetiresTo f.region region :=
  ⟨g.region, h.rest, h.region⟩

/-- A frame does not become another one when its code retires. -/
theorem sameAs : f.sameAs g = true := by
  obtain ⟨region, rfl, -⟩ := h.exists_region
  simp [Frame.sameAs]

theorem kind_eq : g.kind = f.kind := by
  obtain ⟨region, rfl, -⟩ := h.exists_region
  rfl

theorem fp_eq : g.fp = f.fp := by
  obtain ⟨region, rfl, -⟩ := h.exists_region
  rfl

theorem unextendedSp_eq : g.unextendedSp = f.unextendedSp := by
  obtain ⟨region, rfl, -⟩ := h.exists_region
  rfl

/-- The data block of an upcall stub stays where it is. -/
theorem upcallAnchor_eq (v : StackView) : g.upcallAnchor v = f.upcallAnchor v := by
  obtain ⟨region, rfl, related⟩ := h.exists_region
  rw [Frame.upcallAnchor, Frame.upcallAnchor]
  cases hr : f.region with
  | none =>
      rw [hr] at related
      cases related
      rfl
  | some r =>
      rw [hr] at related
      cases related with
      | some retires =>
          obtain ⟨_, rfl, -⟩ := retires.exists_stage
          rfl

end Frame.RetiresTo

theorem Frame.retiresTo_ofRegion {r q : Option CodeRegion}
    (h : Option.Rel CodeRegion.RetiresTo r q) (v : StackView) (sp unextendedSp fp pc : Word) :
    (ofRegion v r sp unextendedSp fp pc).RetiresTo (ofRegion v q sp unextendedSp fp pc) := by
  cases h with
  | none => exact ⟨rfl, .none⟩
  | some retires =>
      obtain ⟨_, rfl, -⟩ := retires.exists_stage
      exact ⟨rfl, .some retires⟩

namespace WalkContext.RetiresTo

variable {ctx later : WalkContext} {f g : Frame} (h : ctx.RetiresTo later)

include h

theorem frameOn (v : StackView) (sp unextendedSp fp pc : Word) :
    (ctx.frameOn v sp unextendedSp fp pc).RetiresTo (later.frameOn v sp unextendedSp fp pc) :=
  Frame.retiresTo_ofRegion (h.code pc) v sp unextendedSp fp pc

theorem related_lookup (pc : Word) :
    Related Eq (Option.Rel CodeRegion.RetiresTo) (ctx.lookup pc) (later.lookup pc) := by
  apply related_bind (related_self _)
  rintro _ _ -
  exact related_pure (h.code pc)

theorem related_frameWith (sp unextendedSp fp pc : Word) :
    Related Eq Frame.RetiresTo (ctx.frameWith sp unextendedSp fp pc)
      (later.frameWith sp unextendedSp fp pc) := by
  apply related_bind (h.related_lookup pc)
  intro r q retires
  apply related_stack_bind
  rintro v _ rfl
  exact related_pure (Frame.retiresTo_ofRegion retires v sp unextendedSp fp pc)

/-! ## From an anchor -/

variable (hf : f.RetiresTo g)

include hf

theorem entryAnchor_eq (v : StackView) :
    g.entryAnchor later.layout v = f.entryAnchor ctx.layout v := by
  obtain ⟨code, rfl, -⟩ := h.exists_code
  obtain ⟨region, rfl, -⟩ := hf.exists_region
  rfl

theorem related_callerFromAnchor (site : AnchorSite) :
    Related Eq Frame.RetiresTo (f.callerFromAnchor ctx site) (g.callerFromAnchor later site) := by
  obtain ⟨region, rfl, -⟩ := hf.exists_region
  apply related_bind (related_self _)
  rintro _ _ -
  apply related_bind (related_self _)
  rintro _ _ -
  apply related_bind (related_self _)
  rintro a _ rfl
  apply related_bind (related_self _)
  rintro site _ rfl
  apply related_bind (related_self _)
  rintro _ _ -
  exact h.related_frameWith _ _ _ _

/-- Both frames find the same anchor, if they look for it in the same way. -/
theorem related_anchoredCaller {anchor anchor' : StackView → Except FrameError AnchorSite}
    (same : ∀ v, anchor' v = anchor v) :
    Related Eq Frame.RetiresTo (do f.callerFromAnchor ctx (← anchor (← stack)))
      (do g.callerFromAnchor later (← anchor' (← stack))) := by
  apply related_stack_bind
  rintro v _ rfl
  rw [same v]
  apply related_bind (related_self _)
  rintro site _ rfl
  exact h.related_callerFromAnchor hf site

/-! ## Over a return barrier -/

theorem related_parkedTopBehind (options : WalkOptions) (pc : Word) :
    Related Eq (Option.Rel Frame.RetiresTo) (f.parkedTopBehind ctx options pc)
      (g.parkedTopBehind later options pc) := by
  obtain ⟨code, rfl, -⟩ := h.exists_code
  obtain ⟨region, rfl, -⟩ := hf.exists_region
  rw [Frame.parkedTopBehind, Frame.parkedTopBehind]
  refine related_ite ?_ (related_pure .none)
  apply related_stack_bind
  rintro v _ rfl
  apply related_bind (related_self _)
  rintro c _ rfl
  cases c.bind (·.top) with
  | none => exact related_pure .none
  | some top =>
      apply related_bind (h.related_frameWith _ _ _ _)
      intro s t retires
      exact related_pure (.some retires)

theorem related_callerBehind (options : WalkOptions) (pc sp : Word)
    {build build' : Word × Word → Inspection Frame}
    (builds : ∀ x, Related Eq Frame.RetiresTo (build x) (build' x)) :
    Related Eq Frame.RetiresTo (f.callerBehind ctx options pc sp build)
      (g.callerBehind later options pc sp build') := by
  apply related_bind (h.related_parkedTopBehind hf options pc)
  intro x y parked
  cases parked with
  | some retires => exact related_pure retires
  | none =>
      -- the barrier is told from the pc alone, so the registers are corrected alike
      obtain ⟨code, rfl, -⟩ := h.exists_code
      obtain ⟨region, rfl, -⟩ := hf.exists_region
      apply related_bind (related_self _)
      rintro x _ rfl
      exact builds x

/-! ## Each kind of frame -/

theorem related_interpretedCaller (options : WalkOptions) :
    Related Eq Frame.RetiresTo (f.interpretedCaller ctx options)
      (g.interpretedCaller later options) := by
  rw [Frame.interpretedCaller, Frame.interpretedCaller, hf.fp_eq]
  apply related_bind (related_self _)
  rintro sp _ rfl
  apply related_bind (related_self _)
  rintro unextendedSp _ rfl
  apply related_bind (related_self _)
  rintro fp _ rfl
  apply related_bind (related_self _)
  rintro pc _ rfl
  exact h.related_callerBehind hf options pc unextendedSp fun _ => h.related_frameWith _ _ _ _

theorem related_compiledCaller (options : WalkOptions) :
    Related Eq Frame.RetiresTo (f.compiledCaller ctx options)
      (g.compiledCaller later options) := by
  have region : Related Eq CodeRegion.RetiresTo (orError f.region (.missingRegion f.rawPc))
      (orError g.region (.missingRegion g.rawPc)) := by
    obtain ⟨region, rfl, related⟩ := hf.exists_region
    exact related_orError related _
  rw [Frame.compiledCaller, Frame.compiledCaller, hf.unextendedSp_eq]
  apply related_bind region
  intro r q retires
  -- the size of a frame does not change with the stage
  obtain ⟨_, rfl, -⟩ := retires.exists_stage
  apply related_bind (related_self _)
  rintro _ _ -
  apply related_bind (related_self _)
  rintro sp _ rfl
  apply related_bind (related_self _)
  rintro pc _ rfl
  apply related_bind (related_self _)
  rintro fp _ rfl
  exact h.related_callerBehind hf options pc sp fun _ => h.related_frameWith _ _ _ _

theorem related_nativeCaller :
    Related Eq Frame.RetiresTo (f.nativeCaller ctx) (g.nativeCaller later) := by
  rw [Frame.nativeCaller, Frame.nativeCaller, hf.fp_eq]
  apply related_bind (related_self _)
  rintro sp _ rfl
  apply related_bind (related_self _)
  rintro fp _ rfl
  apply related_bind (related_self _)
  rintro pc _ rfl
  exact h.related_frameWith _ _ _ _

/-- What is found as the caller, or why there is none, does not depend on the stages of code. -/
theorem related_caller (options : WalkOptions) :
    Related Eq Frame.RetiresTo (f.caller ctx options) (g.caller later options) := by
  rw [Frame.caller, Frame.caller, hf.kind_eq]
  cases f.kind with
  | entry => exact h.related_anchoredCaller hf (h.entryAnchor_eq hf)
  | upcall => exact h.related_anchoredCaller hf hf.upcallAnchor_eq
  | interpreted => exact h.related_interpretedCaller hf options
  | compiled => exact h.related_compiledCaller hf options
  | native => exact h.related_nativeCaller hf

end WalkContext.RetiresTo

end StackWalk
