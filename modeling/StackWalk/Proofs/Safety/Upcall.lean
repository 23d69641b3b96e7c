import StackWalk.Proofs.Safety.Managed

/-!
# Upcall frames and their anchors

The caller of an upcall frame is recorded in the anchor of its data block, and computing
it fails properly, or finds a frame further up, exactly if that anchor is not stale
(`caller_of_upcall_iff`). The safety check does not look at the anchor of an upcall frame.
It accepts frames whose anchor points below them (`caller_of_safe_upcall_fails`), although
for the frames of the call stub it makes sure of the contrary.
-/

set_option autoImplicit false

namespace StackWalk

namespace Frame

variable {f : Frame} {ctx : WalkContext} {options : WalkOptions} {v : StackView}

/-- The caller of the frame is computed properly: the answer is an error or a frame further
up the stack. -/
def AnswersAbove (f : Frame) (ctx : WalkContext) (options : WalkOptions) (v : StackView) :
    Prop :=
  (∃ e, ((f.caller ctx options).run v).result = .error (.error e)) ∨
    ∃ s, ((f.caller ctx options).run v).result = .ok s ∧ f.sp < s.sp

/-- An upcall frame leads to an error or to a frame further up, unless its anchor can be
read and is stale. -/
theorem caller_of_upcall_iff (upcall : f.kind = .upcall) :
    f.AnswersAbove ctx options v ↔
      ¬ ∃ site, f.upcallAnchor v = .ok site ∧ site.anchor.IsStale f.sp v := by
  have ends := congrArg Prod.fst (caller_ending_of_upcall upcall ctx options v)
  change ((f.caller ctx options).run v).result = _ at ends
  rw [AnswersAbove, ends]
  cases hx : f.upcallAnchor v with
  | error e =>
      refine iff_of_true (Or.inl ⟨e, rfl⟩) ?_
      rintro ⟨site, hs, -⟩
      cases hs
  | ok site =>
      constructor
      -- a violation is neither an error nor a frame
      · rintro answers ⟨site', hs, stale⟩
        cases hs
        obtain ⟨e, he⟩ := callerFromAnchor_of_stale stale ctx
        rcases answers with ⟨e', h⟩ | ⟨s, h, -⟩
        · cases he.symm.trans h
        · cases he.symm.trans h
      · intro fresh
        have sound : ¬ site.anchor.IsStale f.sp v := fun stale => fresh ⟨site, rfl, stale⟩
        exact callerFromAnchor_of_not_stale sound ctx

end Frame

/-! ## An anchor below its frame -/

namespace StaleUpcall

/-- An upcall stub whose frames keep their anchor two words up. -/
def stub : CodeRegion := .ofCode 0 (.upcallStub (some 0x10)) 0x5800 0x100

def context : WalkContext where
  code := (CodeMap.mk { CodeTable.empty with regions := [stub] } []).classify
  metadata := .unknown
  continuations := none
  config := .standard
  isOwner := false

/-- A stack in the place of that of `ThreeFrames`. The anchor of the frame at `0x8040` records
the address `0x8010`. -/
def view : StackView where
  memory :=
    { ThreeFrames.view.memory with
      block := ⟨#[
        -- up to the frame, and its first two words
        0, 0, 0, 0, 0, 0, 0, 0, 0, 0,
        -- the anchor, and what lies above it
        0x8010, 0, 0, 0, 0, 0, 0, 0, 0, 0, 0, 0, 0, 0, 0, 0, 0, 0, 0, 0, 0, 0]⟩ }
  bounds := ThreeFrames.view.bounds
  fits := by decide

def frame : Frame := context.frameOn view 0x8040 0x8040 0x8080 0x5810

/-- The frame passes the safety check, yet computing its caller breaks a rule of use. -/
theorem caller_of_safe_upcall_fails :
    frame.IsBuiltIn context ∧ frame.kind = .upcall ∧
      ((frame.callerIsSafe context).run view).result = .ok true ∧
        ((frame.caller context ⟨false⟩).run view).result =
          .error (.violation .anchorNotAbove) :=
  ⟨context.frameOn_isBuiltIn .., rfl, rfl, rfl⟩

theorem not_answersAbove :
    frame.kind = .upcall ∧ ¬ frame.AnswersAbove context ⟨false⟩ view :=
  ⟨rfl, fun h => (Frame.caller_of_upcall_iff rfl).1 h
    ⟨⟨0x8050, 0x8010, 0, 0⟩, rfl, rfl, Or.inl (by decide)⟩⟩

end StaleUpcall

end StackWalk
