import StackWalk.Frame.Description
import StackWalk.Proofs.Frame.Barrier
import StackWalk.Proofs.Frame.Patched
import StackWalk.Proofs.Inspection.Confined
import StackWalk.Walk

/-!
# Frame operations stay on the stack

Every function of a frame and a stack reaches the words of the stack through bounded accesses,
so that it has the same value on stacks that agree (the lemmas on `StackView.AgreesWith`). The
inspections that are made of these functions are therefore confined, from the construction of a
frame to a step of a walk.
-/

set_option autoImplicit false

namespace StackWalk

open Inspection

/-! ## Functions of the stack -/

namespace StackView.AgreesWith

variable {v w : StackView} (h : v.AgreesWith w)

include h

theorem savedPc?_eq (r : CodeRegion) (rawPc unextendedSp : Word) :
    r.savedPc? rawPc unextendedSp w = r.savedPc? rawPc unextendedSp v := by
  simp only [CodeRegion.savedPc?, h.read?_eq]

theorem ofRegion_eq (region : Option CodeRegion) (sp unextendedSp fp pc : Word) :
    Frame.ofRegion w region sp unextendedSp fp pc =
      Frame.ofRegion v region sp unextendedSp fp pc := by
  simp only [Frame.ofRegion, Frame.deoptimizedPcIn, h.savedPc?_eq]

theorem withRawPc_eq (f : Frame) (pc : Word) : f.withRawPc pc w = f.withRawPc pc v := by
  simp only [Frame.withRawPc, h.savedPc?_eq]

theorem slotWord?_eq (f : Frame) : f.slotWord? w = f.slotWord? v := by
  funext slot
  rw [Frame.slotWord?, Frame.slotWord?, h.readAt?_eq]

theorem isPlausible_eq (f : Frame) (ctx : WalkContext) :
    f.isPlausible ctx w = f.isPlausible ctx v := by
  have fits : f.recordFits ctx w = f.recordFits ctx v := by
    funext m
    simp only [Frame.recordFits, h.slotWord?_eq, h.bounds]
  rw [Frame.isPlausible, Frame.isPlausible, h.slotWord?_eq, fits]

theorem callWrapper?_eq (f : Frame) (layout : EntryLayout) :
    f.callWrapper? layout w = f.callWrapper? layout v := by
  rw [Frame.callWrapper?, Frame.callWrapper?, h.readAt?_eq]

theorem anchorAbove_eq (start offset : Word) :
    Frame.anchorAbove start offset w = Frame.anchorAbove start offset v := by
  simp only [Frame.anchorAbove, AnchorSite.load?, h.readAt?_eq]

theorem entryAnchor_eq (f : Frame) (layout : EntryLayout) :
    f.entryAnchor layout w = f.entryAnchor layout v := by
  simp only [Frame.entryAnchor, h.callWrapper?_eq, h.anchorAbove_eq]

theorem upcallAnchor_eq (f : Frame) : f.upcallAnchor w = f.upcallAnchor v := by
  simp only [Frame.upcallAnchor, h.anchorAbove_eq]

theorem isEntryValid_eq (f : Frame) (layout : EntryLayout) :
    f.isEntryValid layout w = f.isEntryValid layout v := by
  simp only [Frame.isEntryValid, h.callWrapper?_eq, h.entryAnchor_eq, h.bounds]

theorem isFirst_eq (f : Frame) (layout : EntryLayout) :
    f.isFirst layout w = f.isFirst layout v := by
  simp only [Frame.isFirst, Frame.isFirstEntry, Frame.isFirstUpcall, h.entryAnchor_eq,
    h.upcallAnchor_eq]

theorem returnPcBelow_eq (sp : Word) : Anchor.returnPcBelow w sp = Anchor.returnPcBelow v sp := by
  simp only [Anchor.returnPcBelow, h.read?_eq]

theorem continuationOf?_eq (ctx : WalkContext) (f : Frame) :
    ctx.continuationOf? f w = ctx.continuationOf? f v := by
  simp only [WalkContext.continuationOf?, Frame.continuationSp, Frame.slot, h.slotWord?_eq]

theorem throughBarrier_eq (ctx : WalkContext) (f : Frame) (pc sp : Word) :
    ctx.throughBarrier f w pc sp = ctx.throughBarrier f v pc sp := by
  simp only [WalkContext.throughBarrier, h.continuationOf?_eq]

theorem returnAddress?_eq (f : Frame) : f.returnAddress? w = f.returnAddress? v := by
  rw [Frame.returnAddress?, Frame.returnAddress?, h.readAt?_eq]

theorem interpretedCandidate?_eq (f : Frame) :
    f.interpretedCandidate? w = f.interpretedCandidate? v := by
  simp only [Frame.interpretedCandidate?, h.readAt?_eq]

theorem compiledCandidate?_eq (f : Frame) (r : CodeRegion) :
    f.compiledCandidate? r w = f.compiledCandidate? r v := by
  rw [Frame.compiledCandidate?, Frame.compiledCandidate?, h.readAt?_eq, h.bounds]

theorem at?_eq (base : Word) (k : Int) (label : String) :
    SlotDescription.at? w base k label = SlotDescription.at? v base k label := by
  simp only [SlotDescription.at?, h.read?_eq]

theorem describe_eq (f : Frame) (ctx : WalkContext) (number : Nat) :
    f.describe ctx w number = f.describe ctx v number := by
  simp only [Frame.describe, Frame.describeRecord, Frame.describeSaved, Frame.returnLabel,
    h.at?_eq, h.readAt?_eq]

theorem rawSlots_eq (f : Frame) : f.rawSlots w = f.rawSlots v := by
  simp only [Frame.rawSlots, h.at?_eq]

end StackView.AgreesWith

/-! ## Inspections of the stack -/

section Context

variable (ctx : WalkContext)

theorem isConfined_lookup (pc : Word) : IsConfined (ctx.lookup pc) :=
  isConfined_bind (isConfined_emit _) fun _ => isConfined_pure _

theorem isConfined_frameWith (sp unextendedSp fp pc : Word) :
    IsConfined (ctx.frameWith sp unextendedSp fp pc) := by
  apply isConfined_bind (isConfined_lookup ctx pc)
  intro region
  apply isConfined_stack_bind
  · intro v w h
    rw [h.ofRegion_eq]
  · exact fun v => isConfined_pure _

theorem isConfined_frameAt (sp fp pc : Word) : IsConfined (ctx.frameAt sp fp pc) :=
  isConfined_frameWith ctx sp sp fp pc

end Context

namespace Frame

variable (f : Frame) (ctx : WalkContext) (options : WalkOptions)

/-! ### The caller -/

theorem isConfined_wordAt (a : Word) (k : Int) : IsConfined (wordAt a k) := by
  apply isConfined_stack_bind
  · intro v w h
    rw [h.readAt?_eq]
  · exact fun v => isConfined_orError _ _

theorem isConfined_addressAt (a : Word) (k : Int) : IsConfined (addressAt a k) :=
  isConfined_orError _ _

theorem isConfined_ensureWalkable (a : Anchor) : IsConfined a.ensureWalkable := by
  rw [Anchor.ensureWalkable]
  split
  · exact isConfined_pure _
  · apply isConfined_bind (isConfined_ensure _ _)
    intro _
    apply isConfined_stack_bind
    · intro v w h
      rw [h.returnPcBelow_eq]
    · intro v
      apply isConfined_bind (isConfined_liftError _)
      intro pc
      exact isConfined_bind (isConfined_log _ _) fun _ => isConfined_pure _

theorem isConfined_callerFromAnchor (site : AnchorSite) :
    IsConfined (f.callerFromAnchor ctx site) := by
  apply isConfined_bind (isConfined_ensure _ _)
  intro _
  apply isConfined_bind (isConfined_require _ _)
  intro _
  apply isConfined_bind (isConfined_ensureWalkable _)
  intro a
  apply isConfined_bind (isConfined_store site a)
  intro site
  apply isConfined_bind (isConfined_require _ _)
  intro _
  exact isConfined_frameAt ctx _ _ _

theorem isConfined_parkedTopBehind (pc : Word) : IsConfined (f.parkedTopBehind ctx options pc) := by
  rw [parkedTopBehind]
  split
  · apply isConfined_stack_bind
    · intro v w h
      rw [h.continuationOf?_eq]
    · intro v
      apply isConfined_bind (isConfined_liftViolation _)
      intro c
      cases c.bind (·.top) with
      | none => exact isConfined_pure _
      | some top =>
          exact isConfined_bind (isConfined_frameAt ctx _ _ _) fun _ => isConfined_pure _
  · exact isConfined_pure _

theorem isConfined_throughBarrier (pc sp : Word) :
    IsConfined (do ctx.throughBarrier f (← stack) pc sp) := by
  apply isConfined_stack_bind
  · intro v w h
    rw [h.throughBarrier_eq]
  · exact fun v => isConfined_liftViolation _

theorem isConfined_behindBarrier (pc sp : Word) :
    IsConfined (f.behindBarrier ctx options pc sp) := by
  rw [behindBarrier]
  split
  · exact isConfined_pure _
  · exact isConfined_throughBarrier f ctx pc sp

theorem isConfined_callerBehind (pc sp : Word) {build : Word × Word → Inspection Frame}
    (h : ∀ x, IsConfined (build x)) : IsConfined (f.callerBehind ctx options pc sp build) := by
  apply isConfined_bind (isConfined_parkedTopBehind f ctx options pc)
  intro top
  cases top with
  | some top => exact isConfined_pure _
  | none => exact isConfined_bind (isConfined_behindBarrier f ctx options pc sp) h

theorem isConfined_interpretedCaller : IsConfined (f.interpretedCaller ctx options) := by
  apply isConfined_bind (isConfined_addressAt _ _)
  intro sp
  apply isConfined_bind (isConfined_wordAt _ _)
  intro unextendedSp
  apply isConfined_bind (isConfined_wordAt _ _)
  intro fp
  apply isConfined_bind (isConfined_wordAt _ _)
  intro pc
  exact isConfined_callerBehind f ctx options pc unextendedSp fun _ =>
    isConfined_frameWith ctx _ _ _ _

theorem isConfined_compiledCaller : IsConfined (f.compiledCaller ctx options) := by
  apply isConfined_bind (isConfined_orError _ _)
  intro r
  apply isConfined_bind (isConfined_require _ _)
  intro _
  apply isConfined_bind (isConfined_addressAt _ _)
  intro sp
  apply isConfined_bind (isConfined_wordAt _ _)
  intro pc
  apply isConfined_bind (isConfined_wordAt _ _)
  intro fp
  exact isConfined_callerBehind f ctx options pc sp fun _ => isConfined_frameWith ctx _ _ _ _

theorem isConfined_nativeCaller : IsConfined (f.nativeCaller ctx) := by
  apply isConfined_bind (isConfined_addressAt _ _)
  intro sp
  apply isConfined_bind (isConfined_wordAt _ _)
  intro fp
  apply isConfined_bind (isConfined_wordAt _ _)
  intro pc
  exact isConfined_frameAt ctx _ _ _

theorem isConfined_caller : IsConfined (f.caller ctx options) := by
  rw [caller]
  cases f.kind with
  | entry =>
      apply isConfined_stack_bind
      · intro v w h
        rw [h.entryAnchor_eq]
      · intro v
        exact isConfined_bind (isConfined_liftError _) (isConfined_callerFromAnchor f ctx)
  | upcall =>
      apply isConfined_stack_bind
      · intro v w h
        rw [h.upcallAnchor_eq]
      · intro v
        exact isConfined_bind (isConfined_liftError _) (isConfined_callerFromAnchor f ctx)
  | interpreted => exact isConfined_interpretedCaller f ctx options
  | compiled => exact isConfined_compiledCaller f ctx options
  | native => exact isConfined_nativeCaller f ctx

/-! ### The safety check -/

theorem isConfined_inInterpreter (pc : Word) : IsConfined (ctx.inInterpreter pc) :=
  isConfined_bind (isConfined_lookup ctx pc) fun _ => isConfined_pure _

theorem isConfined_returnsToCallStub (pc : Word) : IsConfined (ctx.returnsToCallStub pc) :=
  isConfined_bind (isConfined_lookup ctx pc) fun _ => isConfined_pure _

/-- A test of the frame of a candidate, made only under a condition. -/
theorem isConfined_guardedFrame (c : CallerCandidate) (b : Bool) (p : Frame → Bool) :
    IsConfined (if !b then (pure false : Inspection Bool) else do
      let caller ← ctx.frameWith c.sp c.unextendedSp c.savedFp c.pc
      pure (p caller)) :=
  isConfined_ite (isConfined_pure _) <|
    isConfined_bind (isConfined_frameWith ctx _ _ _ _) fun _ => isConfined_pure _

theorem isConfined_candidateIsSafe (c : CallerCandidate) : IsConfined (candidateIsSafe ctx c) := by
  apply isConfined_stack_bind
  · intro v w h
    simp only [h.bounds, h.isPlausible_eq, h.callWrapper?_eq]
  · intro v
    apply isConfined_bind (isConfined_inInterpreter ctx _)
    intro interpreted
    split
    · exact isConfined_guardedFrame ctx c _ (·.isPlausible ctx v)
    · split
      · exact isConfined_pure _
      · apply isConfined_bind (isConfined_lookup ctx _)
        intro region
        cases region with
        | none => exact isConfined_pure _
        | some r =>
            apply isConfined_ite (isConfined_pure _)
            apply isConfined_bind (isConfined_returnsToCallStub ctx _)
            intro stub
            split
            · exact isConfined_guardedFrame ctx c _ _
            · exact isConfined_pure _

theorem isConfined_managedCallerIsSafe (c : CallerCandidate) :
    IsConfined (f.managedCallerIsSafe ctx c) := by
  apply isConfined_stack_bind
  · intro v w h
    rw [h.throughBarrier_eq]
  · intro v
    exact isConfined_bind (isConfined_liftViolation _) fun _ => isConfined_candidateIsSafe ctx _

theorem isConfined_callerIsSafe : IsConfined (f.callerIsSafe ctx) := by
  apply isConfined_stack_bind
  · intro v w h
    simp only [h.bounds, h.returnAddress?_eq, h.isEntryValid_eq, h.interpretedCandidate?_eq,
      h.compiledCandidate?_eq]
  · intro v
    split
    · exact isConfined_pure _
    · cases f.region with
      | none => exact isConfined_pure _
      | some r =>
          dsimp only
          split
          · exact isConfined_pure _
          · cases f.kind with
            | entry => exact isConfined_pure _
            | upcall => exact isConfined_pure _
            | interpreted =>
                dsimp only
                split
                · exact isConfined_pure _
                · cases f.interpretedCandidate? v with
                  | none => exact isConfined_pure _
                  | some c => exact isConfined_managedCallerIsSafe f ctx c
            | compiled =>
                cases f.compiledCandidate? r v with
                | none => exact isConfined_pure _
                | some c => exact isConfined_managedCallerIsSafe f ctx c
            | native => exact isConfined_pure _

/-! ### Patches -/

theorem isConfined_verifyPatched : IsConfined (f.verifyPatched ctx) := by
  rw [verifyPatched]
  split
  · exact isConfined_bind (isConfined_frameWith ctx _ _ _ _) fun _ => isConfined_require _ _
  · exact isConfined_pure _

theorem isConfined_overwrite (pc slot held : Word) :
    IsConfined (f.overwrite ctx pc slot held) := by
  apply isConfined_bind (isConfined_require _ _)
  intro _
  apply isConfined_bind (isConfined_require _ _)
  intro _
  apply isConfined_bind (isConfined_write _ _)
  intro _
  apply isConfined_stack_bind
  · intro v w h
    simp only [h.withRawPc_eq]
  · intro v
    apply isConfined_bind (isConfined_require _ _)
    intro _
    exact isConfined_bind (isConfined_verifyPatched _ ctx) fun _ => isConfined_pure _

theorem isConfined_patch (pc : Word) : IsConfined (f.patch ctx pc) := by
  apply isConfined_bind (isConfined_lookup ctx pc)
  intro region
  apply isConfined_bind (isConfined_require _ _)
  intro _
  apply isConfined_bind (isConfined_orError _ _)
  intro slot
  apply isConfined_stack_bind
  · intro v w h
    rw [h.read?_eq]
  · intro v
    apply isConfined_bind (isConfined_orError _ _)
    intro held
    -- the rest is the same whether or not the patch is traced
    split
    · exact isConfined_bind (isConfined_log _ _) fun _ => isConfined_overwrite f ctx pc slot held
    · exact isConfined_overwrite f ctx pc slot held

end Frame

end StackWalk
