import StackWalk.Proofs.Frame.Record
import StackWalk.Proofs.Safety.Managed
import StackWalk.Proofs.Stack.Write

/-!
# The judged and the computed caller

For a frame of the interpreter the safety check and the computation of the caller use the
same code, the same frame pointer and the same record. They can differ in the two stack
pointers, and only at a return barrier: the check puts the entry of the continuation in the
place of the stack pointer, the caller of an interpreted frame gets it as its unextended
stack pointer, and the caller of a compiled frame as both (`exists_judgement`).

A plausible frame has a record, and stack pointers at certain distances from its frame
pointer (`isPlausible_iff`). The caller of a safe frame has the record that was judged. So
it is plausible exactly if its own stack pointers keep the distances, and they do if the
entry of the continuation lies at or above both stack pointers that the check read
(`isPlausible_caller_iff`). Of an entry below one of them this need not hold
(`RaisedCaller.isPlausible_caller_fails`).
-/

set_option autoImplicit false

namespace StackWalk

open Inspection

namespace Frame

variable {f s : Frame} {ctx : WalkContext} {v : StackView} {c : CallerCandidate}

/-! ## The caller beside the candidate -/

/-- The candidate for the caller of a managed frame. -/
def candidate? (f : Frame) (v : StackView) : Option CallerCandidate :=
  match f.kind, f.region with
  | .interpreted, _ => f.interpretedCandidate? v
  | .compiled, some r => f.compiledCandidate? r v
  | _, _ => none

/-- The safety check accepted the caller of `f` on account of the candidate `c`, and `s` is
the caller that was computed. -/
structure IsJudgement (f s : Frame) (c : CallerCandidate) (ctx : WalkContext) (v : StackView) :
    Prop where
  candidate : f.candidate? v = some c
  accepted : (c.behind ctx f v).IsAccepted ctx v
  fp : s.fp = c.savedFp
  kind : s.kind = ((c.behind ctx f v).frame ctx v).kind
  /-- The stack pointer is the one that was judged, or that of the candidate. -/
  sp : s.sp = (ctx.crossing f v c.pc c.sp).2 ∨
    s.sp = c.sp ∧ s.sp ≠ 0 ∧ s.sp.isAligned = true
  unextendedSp : s.unextendedSp = (ctx.crossing f v c.pc c.unextendedSp).2

theorem isJudgement_of_interpreted {r : CodeRegion} (code : f.region = some r)
    (hk : f.kind = .interpreted) (h : f.verdict ctx v = true)
    (computed : ((f.caller ctx ⟨false⟩).run v).result = .ok s) :
    ∃ c, f.IsJudgement s c ctx v := by
  obtain ⟨-, -, -, c, hc, accepted⟩ := (verdict_interpreted_iff code hk).1 h
  obtain ⟨hpc, hsp, -, -⟩ := interpretedCandidate?_eq_some_iff.1 hc
  have ends := congrArg Prod.fst
    (caller_ending_of_interpreted hk hc ctx ⟨false⟩ (goesPast ctx c.pc))
  cases computed.symm.trans ends
  refine ⟨c, ?_, accepted, rfl, ?_, Or.inr ⟨rfl, ?_, ?_⟩, rfl⟩
  · rw [candidate?, hk]
    exact hc
  · rw [CallerCandidate.frame, ctx.frameOn_kind, ctx.frameOn_kind, CallerCandidate.behind,
      ctx.crossing_fst f v c.pc c.sp c.unextendedSp]
  · exact Word.ne_zero_of_lt (Word.lt_of_offset? hsp (by decide))
  · -- the return address could be read, so the words at `fp` are aligned
    obtain ⟨a, ha, read⟩ := Option.bind_eq_some_iff.1 hpc
    have aligned := (StackView.contains_iff.1 (StackView.contains_of_read? read)).1
    have slot := (Word.offset?_eq_some_iff.1 ha).2
    have above := (Word.offset?_eq_some_iff.1 hsp).2
    rw [FrameSlot.returnAddress] at slot
    rw [FrameSlot.callerSp] at above
    rw [ctx.frameOn_sp, Word.isAligned, wordBytes, beq_iff_eq]
    omega

theorem isJudgement_of_compiled {r : CodeRegion} (code : f.region = some r)
    (hk : f.kind = .compiled) (h : f.verdict ctx v = true)
    (computed : ((f.caller ctx ⟨false⟩).run v).result = .ok s) :
    ∃ c, f.IsJudgement s c ctx v := by
  obtain ⟨-, -, c, hc, accepted⟩ := (verdict_compiled_iff code hk).1 h
  obtain ⟨framed, hsp, -, hpc, hfp, husp⟩ := compiledCandidate?_eq_some_iff.1 hc
  have ends := congrArg Prod.fst
    (caller_ending_of_compiled hk code framed hsp hpc hfp ctx ⟨false⟩ (goesPast ctx c.pc))
  cases computed.symm.trans ends
  refine ⟨c, ?_, accepted, rfl, rfl, Or.inl rfl, ?_⟩
  · rw [candidate?, hk, code]
    exact hc
  · rw [husp]
    rfl

/-- The computed caller of a safe managed frame is the judged one but for the stack
pointers. -/
theorem exists_judgement (built : f.IsBuiltIn ctx)
    (managed : f.kind = .interpreted ∨ f.kind = .compiled)
    (safe : ((f.callerIsSafe ctx).run v).result = .ok true)
    (computed : ((f.caller ctx ⟨false⟩).run v).result = .ok s) :
    ∃ c, f.IsJudgement s c ctx v := by
  have h := callerIsSafe_eq_true_iff.1 safe
  rcases managed with hk | hk
  · obtain ⟨r, hr⟩ := built.exists_region (by simp [hk])
    exact isJudgement_of_interpreted hr hk h computed
  · obtain ⟨r, hr⟩ := built.exists_region (by simp [hk])
    exact isJudgement_of_compiled hr hk h computed

namespace IsJudgement

/-- An interpreted caller has the record that was judged, at stack pointers of which one or
both may be others. -/
theorem hasRecordOf (h : f.IsJudgement s c ctx v) (interpreted : s.kind = .interpreted) :
    s.sp ≠ 0 ∧ s.sp.isAligned = true ∧
      ∃ m, s.HasRecordOf m ctx v ∧
        ((c.behind ctx f v).frame ctx v).KeepsDistance m ctx := by
  obtain ⟨nonzero, aligned, m, record, distance⟩ :=
    isPlausible_iff.1 (isPlausible_of_isAccepted h.accepted (h.kind.symm.trans interpreted))
  have record : s.HasRecordOf m ctx v := record.of_fp_eq h.kind h.fp
  rcases h.sp with judged | ⟨-, sp, spAligned⟩
  · rw [judged]
    exact ⟨nonzero, aligned, m, record, distance⟩
  · exact ⟨sp, spAligned, m, record, distance⟩

end IsJudgement

/-- The interpreted caller of a safe managed frame is plausible exactly if its stack pointers
suit its method. That they do is certain if the continuation that is left, if any, was
entered at or above both stack pointers of the candidate. -/
theorem isPlausible_caller_iff (built : f.IsBuiltIn ctx)
    (managed : f.kind = .interpreted ∨ f.kind = .compiled)
    (safe : ((f.callerIsSafe ctx).run v).result = .ok true)
    (computed : ((f.caller ctx ⟨false⟩).run v).result = .ok s)
    (interpreted : s.kind = .interpreted) :
    (∃ m, s.HasRecordOf m ctx v ∧ (s.isPlausible ctx v = true ↔ s.KeepsDistance m ctx)) ∧
      ((∀ c e, f.candidate? v = some c → ctx.around? f v = some e →
        c.sp ≤ e.entrySp ∧ c.unextendedSp ≤ e.entrySp) → s.isPlausible ctx v = true) := by
  obtain ⟨c, judged⟩ := exists_judgement built managed safe computed
  obtain ⟨nonzero, aligned, m, record, distance⟩ := judged.hasRecordOf interpreted
  have accepts : s.KeepsDistance m ctx → s.isPlausible ctx v = true := fun keeps =>
    isPlausible_iff.2 ⟨nonzero, aligned, m, record, keeps⟩
  refine ⟨⟨m, record, ?_, accepts⟩, fun above => accepts ?_⟩
  · intro h
    obtain ⟨-, -, m', record', keeps⟩ := isPlausible_iff.1 h
    -- there is only one method in the record
    cases record'.method.symm.trans record.method
    exact keeps
  · refine distance.of_le judged.fp ?_ ?_
    · rcases judged.sp with same | ⟨same, -⟩
      · exact UInt64.le_of_eq same
      · rw [same]
        exact ctx.le_crossing (fun e found => (above c e judged.candidate found).1) c.pc
    · rw [judged.unextendedSp]
      exact ctx.le_crossing (fun e found => (above c e judged.candidate found).2) c.pc

end Frame

/-! ## A caller whose callee raised the stack pointer -/

namespace RaisedCaller

def regions : List CodeRegion := [.ofCode 0 .interpreter 0x6000 0x1000]

def metadata : MetadataOracle where
  method? a := if a = 0x9000 then some ⟨0xa000, 0x10, 1, .void, false⟩ else none
  isMetadata a := a = 0x9100

/-- An interpreted method calls another one, which returns to a barrier. The continuation
was entered at `entrySp`. -/
def context (entrySp : Word) : WalkContext where
  code := (CodeMap.mk { CodeTable.empty with regions := regions } []).classify
  metadata := metadata
  continuations := some ⟨0x7700, [⟨entrySp, 0x6010, none⟩]⟩
  config := { WalkConfig.standard with slackWords := 9 }
  isOwner := false

def view : StackView where
  memory :=
    { low := 0xb000
      low_aligned := rfl
      block := ⟨#[
        -- the callee, with the stack pointer of its caller, frame pointer and barrier
        0, 0, 0, 0, 0, 0, 0, 0, 0xb060, 0xb0e8, 0x7700, 0, 0, 0, 0, 0,
        -- the record of the caller
        0, 0, 0, 0, 0, 0xa000, 0xb0f0, 0x9100, 0, 0, 0x9000, 0, 0, 0, 0, 0]⟩ }
  bounds := ⟨0xb100, 0xb000, 0⟩
  fits := by decide

def callee (entrySp : Word) : Frame := (context entrySp).frameOn view 0xb000 0xb000 0xb048 0x6000

/-- The frame that is computed as the caller of the callee. -/
def caller (entrySp : Word) : Frame :=
  (context entrySp).frameOn view 0xb058 entrySp 0xb0e8 0x6010

/-- The check measures the caller from the recorded stack pointer and accepts it. The caller
that is computed begins at the entry, one word further down, and is too large. -/
theorem isPlausible_caller_fails :
    (callee 0xb058).IsBuiltIn (context 0xb058) ∧ (callee 0xb058).kind = .interpreted ∧
      (callee 0xb058).returnWord? view = some 0x7700 ∧
        (context 0xb058).isBarrier 0x7700 = true ∧
          (((callee 0xb058).callerIsSafe (context 0xb058)).run view).result = .ok true ∧
            (((callee 0xb058).caller (context 0xb058) ⟨false⟩).run view).result =
                .ok (caller 0xb058) ∧
              (caller 0xb058).kind = .interpreted ∧
                (caller 0xb058).isPlausible (context 0xb058) view = false :=
  ⟨(context 0xb058).frameOn_isBuiltIn .., rfl, rfl, rfl, rfl, rfl, rfl, rfl⟩

/-- A continuation that was entered at the recorded stack pointer leaves nothing to chance. -/
theorem isPlausible_caller :
    (callee 0xb060).IsBuiltIn (context 0xb060) ∧
      ((callee 0xb060).kind = .interpreted ∨ (callee 0xb060).kind = .compiled) ∧
        (((callee 0xb060).callerIsSafe (context 0xb060)).run view).result = .ok true ∧
          (((callee 0xb060).caller (context 0xb060) ⟨false⟩).run view).result =
              .ok (caller 0xb060) ∧
            (caller 0xb060).kind = .interpreted ∧
              (caller 0xb060).isPlausible (context 0xb060) view = true := by
  have built : (callee 0xb060).IsBuiltIn (context 0xb060) :=
    (context 0xb060).frameOn_isBuiltIn ..
  have computed : (((callee 0xb060).caller (context 0xb060) ⟨false⟩).run view).result =
      .ok (caller 0xb060) := rfl
  refine ⟨built, Or.inl rfl, rfl, computed, rfl, ?_⟩
  refine (Frame.isPlausible_caller_iff built (Or.inl rfl) rfl computed rfl).2 ?_
  intro c e candidate around
  cases candidate
  cases around
  decide

end RaisedCaller

end StackWalk
