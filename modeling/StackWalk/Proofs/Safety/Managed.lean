import StackWalk.Proofs.Frame.Ascent

/-!
# Safe managed frames have recognisable callers

The safety check and the computation of the caller read the frame separately: the check
builds a candidate from whatever words it can read, the computation takes the words that
it needs and fails without them. For interpreted and compiled frames they agree. If such a
frame passes the check, its caller can be computed, lies above it, and is of a kind that a
walk knows how to leave (`caller_of_callerIsSafe`).

At a return barrier both sides put the entry of a continuation in the place of the return
address, but not in the same register, so that the caller need not be the frame that was
judged. What a recognisable frame has to satisfy therefore mentions neither of its stack
pointers. The plausibility of an interpreted caller does, and holds away from barriers.
-/

set_option autoImplicit false

namespace StackWalk

open Inspection

namespace Frame

/-- The word to which the frame returns. -/
def returnWord? (f : Frame) (v : StackView) : Option Word :=
  match f.kind, f.region with
  | .compiled, some r => (f.unextendedSp.offset? r.frameSize).bind (v.readAt? · (-1))
  | _, _ => f.returnAddress? v

/-- The frame is one that a walk over managed code can leave again: a frame of the
interpreter, a frame of the call stub with its wrapper, or one of compiled code that may
call. -/
inductive IsRecognised (ctx : WalkContext) (v : StackView) (s : Frame) : Prop
  | interpreted (kind : s.kind = .interpreted)
  | entry {r : CodeRegion} {wrapper : Word} (kind : s.kind = .entry)
      (code : s.region = some r) (alive : r.isAlive = true)
      (inside : r.contains s.rawPc = true)
      (stored : s.callWrapper? ctx.layout v = some wrapper) (above : s.fp < wrapper)
      (below : wrapper < v.bounds.base)
  | compiled {r : CodeRegion} (kind : s.kind = .compiled) (code : s.region = some r)
      (compiled : r.isCompiled = true) (alive : r.isAlive = true)
      (inside : r.contains s.rawPc = true) (framed : 0 < r.frameSize)
      (ordinary : r.isIntrinsic = false) (settled : r.isDeoptPc s.rawPc = false)

/-- What the safety check promises about the caller `s` of the managed frame `f`. -/
structure IsSafeCaller (f s : Frame) (ctx : WalkContext) (v : StackView) : Prop where
  computed : ((f.caller ctx ⟨false⟩).run v).result = .ok s
  unchanged : ((f.caller ctx ⟨false⟩).run v).stack = v
  above : f.sp < s.sp
  recognised : s.IsRecognised ctx v
  managed : s.kind ≠ .native ∧ s.kind ≠ .upcall
  sensible : (∀ pc, f.returnWord? v = some pc → ctx.isBarrier pc = false) →
    s.kind = .interpreted → s.isPlausible ctx v = true

variable {f : Frame} {ctx : WalkContext} {v : StackView} {c : CallerCandidate}

theorem IsRecognised.kind_ne {s : Frame} (h : s.IsRecognised ctx v) :
    s.kind ≠ .native ∧ s.kind ≠ .upcall := by
  cases h with
  | interpreted kind => simp [kind]
  | entry kind => simp [kind]
  | compiled kind => simp [kind]

/-- Every frame at the pc and the frame pointer of an accepted candidate is recognised. -/
theorem isRecognised_of_isAccepted (h : c.IsAccepted ctx v) (sp unextendedSp : Word) :
    (ctx.frameOn v sp unextendedSp c.savedFp c.pc).IsRecognised ctx v := by
  cases h with
  | interpreter code interpreter =>
      refine .interpreted ?_
      rw [ctx.frameOn_kind, code]
      exact FrameKind.ofRegion_of_isInterpreter interpreter
  | callStub code callStub alive inside _ _ stored wrapped =>
      obtain ⟨below, above⟩ := StackBounds.isAbove_iff.1 wrapped
      refine .entry ?_ code alive inside stored above below
      rw [ctx.frameOn_kind, code]
      exact FrameKind.ofRegion_of_isCallStub callStub
  | compiled code compiled alive inside _ framed ordinary settled =>
      refine .compiled ?_ code compiled alive inside framed ordinary settled
      rw [ctx.frameOn_kind, code]
      exact FrameKind.ofRegion_of_isCompiled compiled

/-- An accepted candidate for an interpreted caller is plausible. -/
theorem isPlausible_of_isAccepted (h : c.IsAccepted ctx v)
    (hk : (c.frame ctx v).kind = .interpreted) : (c.frame ctx v).isPlausible ctx v = true := by
  rw [CallerCandidate.frame, ctx.frameOn_kind] at hk
  cases h with
  | interpreter _ _ _ sensible => exact sensible
  | callStub code callStub =>
      rw [code, FrameKind.ofRegion_of_isCallStub callStub] at hk
      cases hk
  | compiled code compiled =>
      rw [code, FrameKind.ofRegion_of_isCompiled compiled] at hk
      cases hk

theorem caller_of_interpreted {r : CodeRegion} (code : f.region = some r)
    (hk : f.kind = .interpreted) (h : f.verdict ctx v = true) :
    ∃ s, f.IsSafeCaller s ctx v := by
  obtain ⟨-, -, -, c, hc, accepted⟩ := (verdict_interpreted_iff code hk).1 h
  obtain ⟨hpc, -, -, -⟩ := interpretedCandidate?_eq_some_iff.1 hc
  have ends := caller_ending_of_interpreted hk hc ctx ⟨false⟩ nofun
  have sound := isRecognised_of_isAccepted accepted c.sp
    (ctx.crossing f v c.pc c.unextendedSp).2
  -- the pc behind the barrier is the one that was judged
  rw [CallerCandidate.behind, ctx.crossing_fst f v c.pc c.sp c.unextendedSp] at sound
  refine ⟨_, congrArg Prod.fst ends, congrArg Prod.snd ends, ?_, sound, sound.kind_ne, ?_⟩
  · exact sp_lt_of_caller rfl (isOrdered_of_verdict h) ends
  · intro free interpreted
    have hb : ctx.isBarrier c.pc = false := by
      refine free c.pc ?_
      rw [returnWord?, hk]
      exact hpc
    rw [CallerCandidate.behind_of_not_isBarrier hb] at accepted
    rw [ctx.crossing_of_not_isBarrier hb] at interpreted ⊢
    exact isPlausible_of_isAccepted accepted interpreted

theorem caller_of_compiled {r : CodeRegion} (code : f.region = some r)
    (hk : f.kind = .compiled) (h : f.verdict ctx v = true) :
    ∃ s, f.IsSafeCaller s ctx v := by
  obtain ⟨-, -, c, hc, accepted⟩ := (verdict_compiled_iff code hk).1 h
  obtain ⟨framed, hsp, -, hpc, hfp, husp⟩ := compiledCandidate?_eq_some_iff.1 hc
  have ends := caller_ending_of_compiled hk code framed hsp hpc hfp ctx ⟨false⟩ nofun
  have sound := isRecognised_of_isAccepted accepted (ctx.crossing f v c.pc c.sp).2
    (ctx.crossing f v c.pc c.sp).2
  refine ⟨_, congrArg Prod.fst ends, congrArg Prod.snd ends, ?_, sound, sound.kind_ne, ?_⟩
  · exact sp_lt_of_caller rfl (isOrdered_of_verdict h) ends
  · intro free interpreted
    have hb : ctx.isBarrier c.pc = false := by
      refine free c.pc ?_
      simp only [returnWord?, hk, code, hsp]
      exact hpc
    have same : ctx.frameOn v c.sp c.sp c.savedFp c.pc = c.frame ctx v := by
      rw [CallerCandidate.frame, husp]
    -- both stack pointers are corrected, so this needs the return address itself
    rw [CallerCandidate.behind_of_not_isBarrier hb] at accepted
    simp only [ctx.crossing_of_not_isBarrier hb, same] at interpreted ⊢
    exact isPlausible_of_isAccepted accepted interpreted

/-- If an interpreted or compiled frame passes the safety check, its caller is found, lies
above it, and is recognisable. -/
theorem caller_of_callerIsSafe (built : f.IsBuiltIn ctx)
    (managed : f.kind = .interpreted ∨ f.kind = .compiled)
    (safe : ((f.callerIsSafe ctx).run v).result = .ok true) :
    ∃ s, f.IsSafeCaller s ctx v := by
  have h := callerIsSafe_eq_true_iff.1 safe
  cases hr : f.region with
  | none =>
      -- a frame without code is a native one
      have hk := built.kind_eq
      rw [hr] at hk
      rcases managed with hm | hm
      · rw [hm] at hk
        cases hk
      · rw [hm] at hk
        cases hk
  | some r =>
      rcases managed with hk | hk
      · exact caller_of_interpreted hr hk h
      · exact caller_of_compiled hr hk h

end Frame

/-! ## A stack of three frames

Compiled code was called by interpreted code, and that by the call stub, whose wrapper holds
an empty anchor. -/

namespace ThreeFrames

/-- The call stub, a compiled method with frames of four words, and the interpreter. -/
def regions : List CodeRegion :=
  [.ofCode 0 .callStub 0x4000 0x100,
    { CodeRegion.ofCode 1 (.compiled none) 0x5000 0x100 with frameSize := 4 },
    .ofCode 2 .interpreter 0x6000 0x1000]

/-- One interpreted method and its constant pool cache. -/
def metadata : MetadataOracle where
  method? a := if a = 0x9000 then some ⟨0xa000, 1, 1, .void, false⟩ else none
  isMetadata a := a = 0x9100

def context : WalkContext where
  code := (CodeMap.mk { CodeTable.empty with regions := regions } []).classify
  metadata := metadata
  continuations := none
  config := .standard
  isOwner := false

def view : StackView where
  memory :=
    { low := 0x8000
      low_aligned := rfl
      block := ⟨#[
        -- the compiled frame
        0, 0, 0x8068, 0x6000,
        -- the interpreted frame, with its record from the bytecode pointer on
        0, 0xa000, 0x8070, 0x9100, 0, 0, 0x9000, 0, 0x8078, 0x80b0, 0x4000,
        -- the frame of the call stub, its wrapper and the anchor
        0, 0x80c0, 0, 0, 0, 0, 0, 0, 0, 0, 0, 0, 0, 0, 0, 0, 0]⟩ }
  bounds := ⟨0x8100, 0x8000, 0⟩
  fits := by decide

/-- The compiled frame. -/
def youngest : Frame := context.frameOn view 0x8000 0x8000 0 0x5000

/-- The interpreted frame. -/
def middle : Frame := context.frameOn view 0x8020 0x8020 0x8068 0x6000

/-- The frame of the call stub. -/
def oldest : Frame := context.frameOn view 0x8078 0x8078 0x80b0 0x4000

theorem caller_of_youngest :
    youngest.IsBuiltIn context ∧ (youngest.kind = .interpreted ∨ youngest.kind = .compiled) ∧
      ((youngest.callerIsSafe context).run view).result = .ok true ∧
        ∃ s, youngest.IsSafeCaller s context view :=
  ⟨context.frameOn_isBuiltIn .., Or.inr rfl, rfl,
    Frame.caller_of_callerIsSafe (context.frameOn_isBuiltIn ..) (Or.inr rfl) rfl⟩

end ThreeFrames

end StackWalk
