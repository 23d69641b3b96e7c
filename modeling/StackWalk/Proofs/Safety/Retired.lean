import StackWalk.Proofs.Frame.Retired
import StackWalk.Proofs.Frame.Verdict

/-!
# Retired code is not accepted again

The safety check looks at the stage of code in one place: code outside the interpreter is no
caller unless it is alive. So a frame that is accepted after code has retired was accepted before
(`Frame.verdict_of_retiresTo`), and since no call brings code back to an earlier stage, a frame
that is rejected stays rejected for as long as nothing but such calls happens
(`acceptance_only_lost`). The caller that is computed stays the same all along.

In a run of calls on shared regions the frame and the context see each region at the same stage,
for what a call changes is shared. A run of calls through a table changes what the context finds,
and the frame may see it or not (`CodeMap.context_retiresTo`).
-/

set_option autoImplicit false

namespace StackWalk

open Inspection

section Check

variable {ctx later : WalkContext} {f g : Frame} {v : StackView}

/-! ## The safety check -/

/-- Code that was found later was there before, at the same stage or an earlier one. -/
theorem Classifier.RetiresTo.exists_of_some {code later : Classifier} (h : code.RetiresTo later)
    {pc : Word} {q : CodeRegion} (found : later pc = some q) :
    ∃ r, code pc = some r ∧ r.RetiresTo q := by
  have related := h pc
  rw [found] at related
  cases hr : code pc with
  | none =>
      rw [hr] at related
      cases related
  | some r =>
      rw [hr] at related
      cases related with
      | some retires => exact ⟨r, rfl, retires⟩

theorem WalkContext.RetiresTo.isPlausible_eq (h : ctx.RetiresTo later) (hf : f.RetiresTo g)
    (v : StackView) : g.isPlausible later v = f.isPlausible ctx v := by
  obtain ⟨code, rfl, -⟩ := h.exists_code
  obtain ⟨region, rfl, -⟩ := hf.exists_region
  rfl

theorem WalkContext.RetiresTo.callWrapper?_eq (h : ctx.RetiresTo later) (hf : f.RetiresTo g)
    (v : StackView) : g.callWrapper? later.layout v = f.callWrapper? ctx.layout v := by
  obtain ⟨code, rfl, -⟩ := h.exists_code
  obtain ⟨region, rfl, -⟩ := hf.exists_region
  rfl

theorem CallerCandidate.isAccepted_of_retiresTo {c : CallerCandidate} (h : ctx.RetiresTo later)
    (accepted : c.IsAccepted later v) : c.IsAccepted ctx v := by
  have frame := h.frameOn v c.sp c.unextendedSp c.savedFp c.pc
  -- the code of an interpreted caller may be at any stage, that of the others has to be alive
  cases accepted with
  | interpreter code interpreter above sensible =>
      obtain ⟨r, found, retires⟩ := h.code.exists_of_some code
      obtain ⟨_, rfl, -⟩ := retires.exists_stage
      refine .interpreter found interpreter above ?_
      exact (h.isPlausible_eq frame v).symm.trans sensible
  | callStub code callStub alive inside nonzero above stored wrapped =>
      obtain ⟨r, found, retires⟩ := h.code.exists_of_some code
      have wasAlive := retires.isAlive alive
      obtain ⟨_, rfl, -⟩ := retires.exists_stage
      refine .callStub found callStub wasAlive inside nonzero above ?_ wrapped
      exact (h.callWrapper?_eq frame v).symm.trans stored
  | compiled code compiled alive inside nonzero framed ordinary settled =>
      obtain ⟨r, found, retires⟩ := h.code.exists_of_some code
      have wasAlive := retires.isAlive alive
      obtain ⟨_, rfl, -⟩ := retires.exists_stage
      exact .compiled found compiled wasAlive inside nonzero framed ordinary settled

namespace Frame

theorem managedVerdict_of_retiresTo {c : CallerCandidate} (h : ctx.RetiresTo later)
    (hf : f.RetiresTo g) (accepted : g.managedVerdict later v c = true) :
    f.managedVerdict ctx v c = true := by
  have same : c.behind later g v = c.behind ctx f v := by
    obtain ⟨code, rfl, -⟩ := h.exists_code
    obtain ⟨region, rfl, -⟩ := hf.exists_region
    rfl
  rw [managedVerdict_eq_true_iff] at accepted ⊢
  rw [same] at accepted
  exact CallerCandidate.isAccepted_of_retiresTo h accepted

/-- The registers of the frame are judged alike, and code that may be that of a caller might have
been before. -/
theorem verdict_of_retiresTo (h : ctx.RetiresTo later) (hf : f.RetiresTo g)
    (accepted : g.verdict later v = true) : f.verdict ctx v = true := by
  have managed : ∀ x : Option CallerCandidate, x.any (g.managedVerdict later v) = true →
      x.any (f.managedVerdict ctx v) = true := by
    intro x hx
    obtain ⟨c, found, judged⟩ := (Option.any_eq_true _ _).1 hx
    exact (Option.any_eq_true _ _).2 ⟨c, found, managedVerdict_of_retiresTo h hf judged⟩
  obtain ⟨code, rfl, -⟩ := h.exists_code
  obtain ⟨region, rfl, related⟩ := hf.exists_region
  rw [verdict, Bool.and_eq_true] at accepted ⊢
  refine ⟨accepted.1, ?_⟩
  have accepted := accepted.2
  cases hr : f.region with
  | none =>
      rw [hr] at related
      cases related
      exact accepted
  | some r =>
      rw [hr] at related
      cases related with
      | some retires =>
          obtain ⟨_, rfl, -⟩ := retires.exists_stage
          rw [Bool.and_eq_true] at accepted ⊢
          refine ⟨accepted.1, ?_⟩
          have accepted := accepted.2
          -- with its kind known, the frame is checked alike on both sides, but for its caller
          rcases f with ⟨sp, unextendedSp, fp, rawPc, region, kind, deoptimizedPc⟩
          cases kind with
          | entry | upcall | native => exact accepted
          | interpreted =>
              rw [Bool.and_eq_true] at accepted ⊢
              exact ⟨accepted.1, managed _ accepted.2⟩
          | compiled => exact managed _ accepted

/-- From `f` in `ctx` to `g` in `later` at most acceptance is lost. -/
structure OnlyLosesAcceptance (f g : Frame) (ctx later : WalkContext) (v : StackView) : Prop where
  accepted : ((g.callerIsSafe later).run v).result = .ok true →
    ((f.callerIsSafe ctx).run v).result = .ok true
  /-- The results are the same frame or the same failure, and the memories are the same. -/
  caller : ∀ options, ((f.caller ctx options).run v).Related Eq (fun s t => s.sameAs t = true)
    ((g.caller later options).run v)

theorem onlyLosesAcceptance_of_retiresTo (h : ctx.RetiresTo later) (hf : f.RetiresTo g)
    (v : StackView) : f.OnlyLosesAcceptance g ctx later v := by
  constructor
  · intro accepted
    exact callerIsSafe_eq_true_iff.2
      (verdict_of_retiresTo h hf (callerIsSafe_eq_true_iff.1 accepted))
  · intro options
    obtain ⟨result, stack, events⟩ := h.related_caller hf options (Eq.refl v)
    exact ⟨result.imp fun _ _ retires => retires.sameAs, stack, events⟩

/-- What was rejected is rejected later. -/
theorem rejected_of_retiresTo (h : ctx.RetiresTo later) (hf : f.RetiresTo g)
    (rejected : ((f.callerIsSafe ctx).run v).result = .ok false) :
    ((g.callerIsSafe later).run v).result = .ok false := by
  rw [callerIsSafe_eq_false_iff] at rejected ⊢
  rw [Bool.eq_false_iff] at rejected ⊢
  exact fun accepted => rejected (verdict_of_retiresTo h hf accepted)

end Frame

end Check

/-! ## Runs -/

namespace SharedCode

variable {ι : Type} (code : SharedCode ι)

/-- The context in which look-ups find the regions as they are now. -/
def context (ctx : WalkContext) : WalkContext := { ctx with code := code.classify }

/-- The frame whose code is the region that it holds, as it is now. -/
def frame (f : Frame) (held : Option ι) : Frame := { f with region := held.map code.region }

variable [DecidableEq ι]

/-- The calls `after` are made after the calls `before`, and there are no others. -/
structure OnlyRetires (before after : List (ι × LivenessCall)) : Prop where
  neverBack : ∀ i, ((code.afterCalls before).region i).liveness.rank ≤
    ((code.afterCalls (before ++ after)).region i).liveness.rank
  answers : ∀ i c, ((code.afterCalls before).call i c).1 = true ↔
    (((code.afterCalls before).call i c).2.region i).liveness ≠
      ((code.afterCalls before).region i).liveness
  staysRejected : ∀ (ctx : WalkContext) (f : Frame) (held : Option ι) (v : StackView),
    ((((code.afterCalls before).frame f held).callerIsSafe
        ((code.afterCalls before).context ctx)).run v).result = .ok false →
      ((((code.afterCalls (before ++ after)).frame f held).callerIsSafe
        ((code.afterCalls (before ++ after)).context ctx)).run v).result = .ok false

theorem context_retiresTo (calls : List (ι × LivenessCall)) (ctx : WalkContext) :
    (code.context ctx).RetiresTo ((code.afterCalls calls).context ctx) :=
  ⟨rfl, code.classify_afterCalls calls⟩

theorem frame_retiresTo (calls : List (ι × LivenessCall)) (f : Frame) (held : Option ι) :
    (code.frame f held).RetiresTo ((code.afterCalls calls).frame f held) :=
  ⟨rfl, code.rel_afterCalls calls held⟩

theorem onlyRetires (before after : List (ι × LivenessCall)) : code.OnlyRetires before after := by
  refine ⟨?_, (code.afterCalls before).call_fst_iff, ?_⟩
  · intro i
    rw [afterCalls_append]
    exact ((code.afterCalls before).retiresTo_afterCalls after i).later
  · intro ctx f held v
    rw [afterCalls_append]
    exact Frame.rejected_of_retiresTo ((code.afterCalls before).context_retiresTo after ctx)
      ((code.afterCalls before).frame_retiresTo after f held)

end SharedCode

namespace CodeMap

/-- The context in which look-ups go through the table. -/
def context (m : CodeMap) (ctx : WalkContext) : WalkContext := { ctx with code := m.classify }

/-- Calls made through a table of disjoint regions lead to a later context. -/
theorem context_retiresTo {m : CodeMap} (h : m.table.IsDisjoint) (calls : List (Word × Liveness))
    (ctx : WalkContext) : (m.context ctx).RetiresTo ((m.afterAdvances calls).context ctx) :=
  ⟨rfl, classify_afterAdvances h calls⟩

end CodeMap

/-- If two contexts differ only in that code has moved on in its life, a frame that is accepted in
the later one is accepted in the earlier one, and has the same caller in both. Calls only ever
move code on, each answers whether it did, and in a run of such calls a rejected frame is not
accepted again. Runs of calls through a table of installed code also lead to contexts that differ
only in that. -/
theorem acceptance_only_lost :
    (∀ {ctx later : WalkContext} {f g : Frame}, ctx.RetiresTo later → f.RetiresTo g →
      ∀ v, f.OnlyLosesAcceptance g ctx later v) ∧
      (∀ {ι : Type} [DecidableEq ι] (code : SharedCode ι)
        (before after : List (ι × LivenessCall)), code.OnlyRetires before after) ∧
        ∀ {m : CodeMap}, m.table.IsDisjoint → ∀ (calls : List (Word × Liveness))
          (ctx : WalkContext), (m.context ctx).RetiresTo ((m.afterAdvances calls).context ctx) := by
  refine ⟨Frame.onlyLosesAcceptance_of_retiresTo, ?run, ?table⟩
  case run => exact fun code before after => code.onlyRetires before after
  case table => exact CodeMap.context_retiresTo

/-! ## Two compiled methods

The method at `0x5000` was called from the one at `0x6000`. -/

namespace CompiledPair

/-- The callee is the first region, and the caller the second. -/
def code : SharedCode Bool where
  handle? pc := if pc < 0x6000 then some false else some true
  region second :=
    { CodeRegion.ofCode 0 (.compiled none) (if second then 0x6000 else 0x5000) 0x100 with
      frameSize := 4 }

def base : WalkContext where
  code := fun _ => none
  metadata := .unknown
  continuations := none
  config := .standard
  isOwner := false

/-- The frame of the callee is the lowest four words. -/
def view : StackView where
  memory :=
    { low := 0x34000
      low_aligned := rfl
      block := ⟨#[0, 0, 0x34030, 0x6010, 0, 0, 0, 0]⟩ }
  bounds := ⟨0x34040, 0x34000, 0⟩
  fits := of_decide_eq_true rfl

def callee : Frame := (code.context base).frameOn view 0x34000 0x34000 0 0x5010

/-- The code of the callee has retired. -/
def zombie : SharedCode Bool := code.afterCalls [(false, .makeZombie)]

/-- So has the code of the caller. -/
def unloaded : SharedCode Bool := zombie.afterCalls [(true, .makeUnloaded)]

/-- The two regions, installed in a table. -/
def installed : CodeMap where
  table := CodeTable.empty.afterChanges [.insert (code.region true), .insert (code.region false)]
  windows := []

/-- The table after the code of the caller has been unloaded. -/
def unloadedTable : CodeMap := installed.afterAdvances [(0x6000, .unloaded)]

/-- The frame is accepted as long as only its own code has retired, and so it was at first. Once
the code of its caller has been unloaded it is rejected, and no call changes that any more, be it
on a shared region or through a table. -/
theorem acceptance_of_callee_only_lost :
    (code.context base).RetiresTo (zombie.context base) ∧
      callee.RetiresTo (zombie.frame callee (some false)) ∧
        (((zombie.frame callee (some false)).callerIsSafe (zombie.context base)).run view).result =
            .ok true ∧
          ((callee.callerIsSafe (code.context base)).run view).result = .ok true ∧
            (((unloaded.frame callee (some false)).callerIsSafe
                (unloaded.context base)).run view).result = .ok false ∧
              (∀ calls : List (Bool × LivenessCall),
                ((((unloaded.afterCalls calls).frame callee (some false)).callerIsSafe
                    ((unloaded.afterCalls calls).context base)).run view).result = .ok false) ∧
                ((callee.callerIsSafe (installed.context base)).run view).result = .ok true ∧
                  ∀ calls : List (Word × Liveness),
                    ((callee.callerIsSafe
                      ((unloadedTable.afterAdvances calls).context base)).run view).result ≠
                        .ok true := by
  have retires : (code.context base).RetiresTo (zombie.context base) :=
    code.context_retiresTo [(false, .makeZombie)] base
  have held : callee.RetiresTo (zombie.frame callee (some false)) :=
    code.frame_retiresTo [(false, .makeZombie)] callee (some false)
  have accepted : (((zombie.frame callee (some false)).callerIsSafe
      (zombie.context base)).run view).result = .ok true := rfl
  have rejected : (((unloaded.frame callee (some false)).callerIsSafe
      (unloaded.context base)).run view).result = .ok false := rfl
  have disjoint : unloadedTable.table.IsDisjoint :=
    CodeTable.isDisjoint_of_changes CodeTable.isDisjoint_empty
      [.insert (code.region true), .insert (code.region false), .advance 0x6000 .unloaded]
  have rejectedThere : ((callee.callerIsSafe (unloadedTable.context base)).run view).result =
      .ok false := rfl
  refine ⟨retires, held, accepted, ?_, rejected, ?_, rfl, ?_⟩
  · exact (acceptance_only_lost.1 retires held view).accepted accepted
  · intro calls
    exact (acceptance_only_lost.2.1 unloaded [] calls).staysRejected base callee (some false) view
      rejected
  · -- what is accepted at last would have been accepted at once
    intro calls acceptedThen
    have later := acceptance_only_lost.2.2 disjoint calls base
    have before := (acceptance_only_lost.1 later (.refl callee) view).accepted acceptedThen
    cases rejectedThere.symm.trans before

end CompiledPair

end StackWalk
