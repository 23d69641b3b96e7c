import StackWalk.Proofs.Inspection.Ending
import StackWalk.Frame.Basic

/-!
# Frames built in a context

The constructor of a frame resolves its pc and reads at most one word; `frameOn` is the
frame that it yields on a given memory (`frameWith_ending`). A frame is built in a context
if the constructor returned it on some state of the stack. Its region and its kind then
follow from its pc, whatever has happened to the stack since.
-/

set_option autoImplicit false

namespace StackWalk

namespace WalkContext

/-- The frame with the given registers, on the given memory. -/
def frameOn (ctx : WalkContext) (v : StackView) (sp unextendedSp fp pc : Word) : Frame :=
  Frame.ofRegion v (ctx.code pc) sp unextendedSp fp pc

@[simp] theorem lookup_ending (ctx : WalkContext) (pc : Word) (v : StackView) :
    (ctx.lookup pc).ending v = (.ok (ctx.code pc), v) := rfl

@[simp] theorem inInterpreter_ending (ctx : WalkContext) (pc : Word) (v : StackView) :
    (ctx.inInterpreter pc).ending v = (.ok ((ctx.code pc).any (·.isInterpreter)), v) := rfl

@[simp] theorem returnsToCallStub_ending (ctx : WalkContext) (pc : Word) (v : StackView) :
    (ctx.returnsToCallStub pc).ending v = (.ok ((ctx.code pc).any (·.isCallStub)), v) := rfl

@[simp] theorem frameWith_ending (ctx : WalkContext) (sp unextendedSp fp pc : Word)
    (v : StackView) :
    (ctx.frameWith sp unextendedSp fp pc).ending v =
      (.ok (ctx.frameOn v sp unextendedSp fp pc), v) := rfl

@[simp] theorem frameAt_ending (ctx : WalkContext) (sp fp pc : Word) (v : StackView) :
    (ctx.frameAt sp fp pc).ending v = (.ok (ctx.frameOn v sp sp fp pc), v) := rfl

section FrameOn

variable (ctx : WalkContext) (v : StackView) (sp unextendedSp fp pc : Word)

@[simp] theorem frameOn_sp : (ctx.frameOn v sp unextendedSp fp pc).sp = sp := rfl

@[simp] theorem frameOn_unextendedSp :
    (ctx.frameOn v sp unextendedSp fp pc).unextendedSp = unextendedSp := rfl

@[simp] theorem frameOn_fp : (ctx.frameOn v sp unextendedSp fp pc).fp = fp := rfl

@[simp] theorem frameOn_rawPc : (ctx.frameOn v sp unextendedSp fp pc).rawPc = pc := rfl

@[simp] theorem frameOn_region :
    (ctx.frameOn v sp unextendedSp fp pc).region = ctx.code pc := rfl

@[simp] theorem frameOn_kind :
    (ctx.frameOn v sp unextendedSp fp pc).kind = .ofRegion (ctx.code pc) := rfl

end FrameOn

end WalkContext

/-- The frame was built in the context, on some state of the stack. -/
def Frame.IsBuiltIn (f : Frame) (ctx : WalkContext) : Prop :=
  ∃ u sp unextendedSp fp pc, ((ctx.frameWith sp unextendedSp fp pc).run u).result = .ok f

namespace Frame.IsBuiltIn

variable {f : Frame} {ctx : WalkContext}

theorem region_eq (h : f.IsBuiltIn ctx) : f.region = ctx.code f.rawPc := by
  obtain ⟨u, sp, unextendedSp, fp, pc, h⟩ := h
  cases h
  rfl

theorem kind_eq (h : f.IsBuiltIn ctx) : f.kind = .ofRegion f.region := by
  obtain ⟨u, sp, unextendedSp, fp, pc, h⟩ := h
  cases h
  rfl

/-- Only a native frame has no code. -/
theorem exists_region (h : f.IsBuiltIn ctx) (hk : f.kind ≠ .native) :
    ∃ r, f.region = some r := by
  rw [h.kind_eq] at hk
  cases hr : f.region with
  | none =>
      rw [hr] at hk
      exact absurd rfl hk
  | some r => exact ⟨r, rfl⟩

/-- And a native frame has none. -/
theorem region_eq_none (h : f.IsBuiltIn ctx) (hk : f.kind = .native) : f.region = none := by
  rw [h.kind_eq] at hk
  cases hr : f.region with
  | none => rfl
  | some r =>
      rw [hr, FrameKind.ofRegion] at hk
      cases code : r.kind <;> rw [code] at hk <;> cases hk

end Frame.IsBuiltIn

theorem WalkContext.frameOn_isBuiltIn (ctx : WalkContext) (v : StackView)
    (sp unextendedSp fp pc : Word) : (ctx.frameOn v sp unextendedSp fp pc).IsBuiltIn ctx :=
  ⟨v, sp, unextendedSp, fp, pc, rfl⟩

/-! ## Kinds of frames and kinds of code -/

namespace CodeRegion

variable {r : CodeRegion}

theorem isInterpreter_iff : r.isInterpreter = true ↔ r.kind = .interpreter := by
  cases hk : r.kind <;> simp [isInterpreter, hk]

theorem isCallStub_iff : r.isCallStub = true ↔ r.kind = .callStub := by
  cases hk : r.kind <;> simp [isCallStub, hk]

theorem isCompiled_iff : r.isCompiled = true ↔ ∃ info, r.kind = .compiled info := by
  cases hk : r.kind <;> simp [isCompiled, hk]

theorem contains_of_isCompleteAt {pc : Word} (h : r.isCompleteAt pc = true) :
    r.contains pc = true := by
  rw [isCompleteAt] at h
  split at h
  · rw [Bool.and_eq_true] at h
    exact h.1
  · cases h

end CodeRegion

namespace FrameKind

variable {r : CodeRegion}

theorem ofRegion_of_isInterpreter (h : r.isInterpreter = true) :
    ofRegion (some r) = interpreted := by
  simp [ofRegion, CodeRegion.isInterpreter_iff.1 h]

theorem ofRegion_of_isCallStub (h : r.isCallStub = true) : ofRegion (some r) = entry := by
  simp [ofRegion, CodeRegion.isCallStub_iff.1 h]

theorem ofRegion_of_isCompiled (h : r.isCompiled = true) : ofRegion (some r) = compiled := by
  obtain ⟨info, hk⟩ := CodeRegion.isCompiled_iff.1 h
  simp [ofRegion, hk]

end FrameKind

end StackWalk
