import StackWalk.Proofs.Safety.Managed

/-!
# Callers outside their own code

A classifier answers which code a pc belongs to, and it may answer with code that does not reach
as far as that pc. The safety check tests the pc of a caller in the call stub or in compiled code
against the extent of that code. It does not test the pc of a caller in the interpreter, for which
it looks at the stack alone.

So the caller of a safe managed frame lies in its own code unless the classifier strays: unless it
resolves the pc to an interpreter that does not contain it (`caller_liesInCode_iff`). A table of
code never strays, nor do windows that cover no more than their code
(`CodeMap.IsTight.not_strays`). With a wider window the check accepts a frame whose caller is
nowhere in the interpreter (`WideWindow.caller_liesInCode_fails`).
-/

set_option autoImplicit false

namespace StackWalk

open Inspection

/-- The classifier resolves `pc` to the interpreter, whose code does not contain it. -/
def Classifier.Strays (code : Classifier) (pc : Word) : Prop :=
  ∃ r, code pc = some r ∧ r.isInterpreter = true ∧ r.contains pc = false

/-! ## Classifiers that do not stray -/

theorem CodeTable.contains_of_find? {t : CodeTable} {pc : Word} {r : CodeRegion}
    (found : t.find? pc = some r) : r.contains pc = true :=
  (Option.filter_eq_some_iff.1 found).2

/-- No window of an interpreter covers a pc that the interpreter does not contain. -/
def CodeMap.IsTight (m : CodeMap) : Prop :=
  ∀ w ∈ m.windows, w.region.isInterpreter = true →
    ∀ pc, w.covers pc = true → w.region.contains pc = true

theorem CodeMap.IsTight.not_strays {m : CodeMap} (tight : m.IsTight) (pc : Word) :
    ¬ m.classify.Strays pc := by
  rintro ⟨r, code, interpreter, outside⟩
  refine absurd ?inside (Bool.eq_false_iff.1 outside)
  rw [classify] at code
  cases found : m.window? pc with
  | none =>
      rw [found] at code
      exact CodeTable.contains_of_find? code
  | some w =>
      rw [found] at code
      cases code
      rw [window?] at found
      have covers : w.covers pc = true := by simpa using List.find?_some found
      exact tight w (List.mem_of_find?_eq_some found) interpreter pc covers

/-! ## Accepted candidates -/

namespace CallerCandidate

variable {c : CallerCandidate} {ctx : WalkContext} {v : StackView}

/-- The code of an accepted candidate is known, and it contains the pc unless it is the
interpreter. -/
theorem IsAccepted.exists_code (h : c.IsAccepted ctx v) :
    ∃ r, ctx.code c.pc = some r ∧ (r.isInterpreter = true ∨ r.contains c.pc = true) := by
  cases h with
  | interpreter code interpreter => exact ⟨_, code, Or.inl interpreter⟩
  | callStub code _ _ inside => exact ⟨_, code, Or.inr inside⟩
  | compiled code _ _ inside => exact ⟨_, code, Or.inr inside⟩

end CallerCandidate

namespace Frame

variable {f s : Frame} {ctx : WalkContext} {v : StackView}

/-- The code of the frame contains its pc. -/
def LiesInCode (s : Frame) : Prop := ∃ r, s.region = some r ∧ r.contains s.rawPc = true

theorem liesInCode_iff {r : CodeRegion} (region : s.region = some r) :
    s.LiesInCode ↔ r.contains s.rawPc = true := by
  rw [LiesInCode, region]
  simp

/-- A frame outside the interpreter lies in its code, and one of the interpreter does unless its
pc strays, if that is how its pc was tested. -/
theorem liesInCode_of_tested {r : CodeRegion} (built : s.IsBuiltIn ctx)
    (code : ctx.code s.rawPc = some r)
    (tested : r.isInterpreter = true ∨ r.contains s.rawPc = true) :
    (s.LiesInCode ↔ ¬ ctx.code.Strays s.rawPc) ∧ (s.kind ≠ .interpreted → s.LiesInCode) := by
  have region : s.region = some r := built.region_eq.trans code
  rw [liesInCode_iff region]
  refine ⟨⟨?_, ?_⟩, ?_⟩
  · rintro inside ⟨q, code', -, outside⟩
    cases code.symm.trans code'
    exact Bool.eq_false_iff.1 outside inside
  · intro honest
    rcases tested with interpreter | inside
    · exact Bool.of_not_eq_false fun outside => honest ⟨r, code, interpreter, outside⟩
    · exact inside
  · intro other
    rcases tested with interpreter | inside
    · have hk := built.kind_eq
      rw [region, FrameKind.ofRegion_of_isInterpreter interpreter] at hk
      exact absurd hk other
    · exact inside

/-- Where the frame returns to: its return address, or the entry of the continuation if that is
the return barrier. -/
def resumesAt? (f : Frame) (ctx : WalkContext) (v : StackView) : Option Word :=
  (f.returnWord? v).map fun pc => (ctx.crossing f v pc f.sp).1

/-- The caller of a safe managed frame is a frame at the pc that was accepted. -/
theorem exists_acceptedCaller (built : f.IsBuiltIn ctx)
    (managed : f.kind = .interpreted ∨ f.kind = .compiled) (safe : f.verdict ctx v = true) :
    ∃ (c : CallerCandidate) (s : Frame), (f.caller ctx ⟨false⟩).ending v = (.ok s, v) ∧
      f.returnWord? v = some c.pc ∧ (c.behind ctx f v).IsAccepted ctx v ∧ s.IsBuiltIn ctx ∧
        s.rawPc = (c.behind ctx f v).pc := by
  rcases managed with hk | hk
  · obtain ⟨r, hr⟩ := built.exists_region (by simp [hk])
    obtain ⟨-, -, -, c, hc, accepted⟩ := (verdict_interpreted_iff hr hk).1 safe
    have ends := caller_ending_of_interpreted hk hc ctx ⟨false⟩ (goesPast ctx c.pc)
    refine ⟨c, _, ends, ?_, accepted, ctx.frameOn_isBuiltIn .., ?_⟩
    · rw [returnWord?, hk]
      exact (interpretedCandidate?_eq_some_iff.1 hc).1
    · exact ctx.crossing_fst f v c.pc c.unextendedSp c.sp
  · obtain ⟨r, hr⟩ := built.exists_region (by simp [hk])
    obtain ⟨-, -, c, hc, accepted⟩ := (verdict_compiled_iff hr hk).1 safe
    obtain ⟨framed, hsp, -, hpc, hfp, -⟩ := compiledCandidate?_eq_some_iff.1 hc
    have ends := caller_ending_of_compiled hk hr framed hsp hpc hfp ctx ⟨false⟩
      (goesPast ctx c.pc)
    refine ⟨c, _, ends, ?_, accepted, ctx.frameOn_isBuiltIn .., rfl⟩
    simp only [returnWord?, hk, hr, hsp]
    exact hpc

/-- The caller of a safe managed frame is where that frame returns to. It lies in its own code
exactly if the classifier does not stray there, so it does if it is not interpreted, and if all
windows are tight. -/
theorem caller_liesInCode_iff (built : f.IsBuiltIn ctx)
    (managed : f.kind = .interpreted ∨ f.kind = .compiled)
    (safe : ((f.callerIsSafe ctx).run v).result = .ok true) :
    ∃ s, ((f.caller ctx ⟨false⟩).run v).result = .ok s ∧ f.resumesAt? ctx v = some s.rawPc ∧
      (s.LiesInCode ↔ ¬ ctx.code.Strays s.rawPc) ∧ (s.kind ≠ .interpreted → s.LiesInCode) ∧
        ∀ m : CodeMap, ctx.code = m.classify → m.IsTight → s.LiesInCode := by
  obtain ⟨c, s, ends, returns, accepted, builtCaller, pc⟩ :=
    exists_acceptedCaller built managed (callerIsSafe_eq_true_iff.1 safe)
  obtain ⟨r, code, tested⟩ := accepted.exists_code
  rw [← pc] at code tested
  obtain ⟨lies, other⟩ := liesInCode_of_tested builtCaller code tested
  refine ⟨s, congrArg Prod.fst ends, ?_, lies, other, ?_⟩
  · rw [resumesAt?, returns, pc]
    exact congrArg some (ctx.crossing_fst f v c.pc f.sp c.sp)
  · intro m mapped tight
    rw [lies, mapped]
    exact tight.not_strays s.rawPc

end Frame

/-! ## A window wider than its code -/

namespace WideWindow

/-- The interpreter. -/
def interpreter : CodeRegion := .ofCode 1 .interpreter 0x6000 0x100

/-- A compiled method with frames of four words, and a window that goes far beyond the
interpreter. -/
def code : CodeMap where
  table := { CodeTable.empty with
    regions :=
      [{ CodeRegion.ofCode 0 (.compiled none) 0x5000 0x100 with frameSize := 4 }, interpreter] }
  windows := [⟨0x6000, 0x7000, interpreter⟩]

def context : WalkContext where
  code := code.classify
  metadata := ThreeFrames.metadata
  continuations := none
  config := .standard
  isOwner := false

/-- The compiled method was called by an interpreted one, and returns to `pc`. -/
def view (pc : Word) : StackView where
  memory :=
    { low := 0x36000
      low_aligned := rfl
      block := ⟨#[
        -- the compiled frame
        0, 0, 0x36068, pc,
        -- the interpreted frame, with its record from the bytecode pointer on
        0, 0xa000, 0x36070, 0x9100, 0, 0, 0x9000, 0, 0x36078, 0, 0, 0]⟩ }
  bounds := ⟨0x36080, 0x36000, 0⟩
  fits := of_decide_eq_true rfl

/-- The compiled frame. -/
def callee (pc : Word) : Frame := context.frameOn (view pc) 0x36000 0x36000 0 0x5000

/-- The interpreted frame. -/
def caller (pc : Word) : Frame := context.frameOn (view pc) 0x36020 0x36020 0x36068 pc

/-- The check accepts the compiled frame, although the pc of the interpreted one is outside the
interpreter. -/
theorem caller_liesInCode_fails :
    (callee 0x6800).IsBuiltIn context ∧ (callee 0x6800).kind = .compiled ∧
      (((callee 0x6800).callerIsSafe context).run (view 0x6800)).result = .ok true ∧
        (((callee 0x6800).caller context ⟨false⟩).run (view 0x6800)).result =
            .ok (caller 0x6800) ∧
          (caller 0x6800).kind = .interpreted ∧ (caller 0x6800).rawPc = 0x6800 ∧
            (caller 0x6800).region = some interpreter ∧
              interpreter.contains 0x6800 = false :=
  ⟨context.frameOn_isBuiltIn .., rfl, rfl, rfl, rfl, rfl, rfl, rfl⟩

/-- Where the window agrees with the interpreter, the caller lies in it. -/
theorem caller_liesInCode_of_inside :
    (callee 0x6080).IsBuiltIn context ∧
      ((callee 0x6080).kind = .interpreted ∨ (callee 0x6080).kind = .compiled) ∧
        (((callee 0x6080).callerIsSafe context).run (view 0x6080)).result = .ok true ∧
          ∃ s, (((callee 0x6080).caller context ⟨false⟩).run (view 0x6080)).result = .ok s ∧
            s.rawPc = 0x6080 ∧ s.LiesInCode := by
  have built : (callee 0x6080).IsBuiltIn context := context.frameOn_isBuiltIn ..
  have safe : (((callee 0x6080).callerIsSafe context).run (view 0x6080)).result = .ok true := rfl
  have address : (callee 0x6080).resumesAt? context (view 0x6080) = some 0x6080 := rfl
  have honest : ¬ context.code.Strays 0x6080 := by
    rintro ⟨r, code, -, outside⟩
    cases code
    cases outside
  obtain ⟨s, computed, resumes, lies, -⟩ := Frame.caller_liesInCode_iff built (Or.inr rfl) safe
  have pc : s.rawPc = 0x6080 := Option.some.inj (resumes.symm.trans address)
  refine ⟨built, Or.inr rfl, safe, s, computed, pc, lies.2 ?_⟩
  rw [pc]
  exact honest

end WideWindow

end StackWalk
