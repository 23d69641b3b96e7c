import StackWalk.Proofs.Frame.Patched
import StackWalk.Proofs.Safety.Managed

/-!
# A patched frame as its callee sees it

A patch stores the new pc in the word below the frame's stack pointer. That is the word from
which an interpreted, compiled or native callee takes the pc of its caller
(`exists_returnsThrough`), and no other word that it reads is touched. If every region has an
id of its own, the callee therefore finds the patched frame, with all that the patch has made
of it (`caller_ending_of_patch`).
-/

set_option autoImplicit false

namespace StackWalk

open Inspection

/-- The word below `b`, if `b` is `k + 1` words away from `a`, is `k` words away from it. -/
theorem Word.offset?_of_below? {a b c : Word} {k : Int} (low : -1 ≤ k)
    (h : a.offset? (k + 1) = some b) (below : b.below? = some c) : a.offset? k = some c := by
  rw [offset?_eq_some_iff] at h ⊢
  rw [below?_eq_some_iff] at below
  omega

/-- Two regions with the same id are the same region. -/
def WalkContext.HasUniqueIds (ctx : WalkContext) : Prop :=
  ∀ p q r s, ctx.code p = some r → ctx.code q = some s → r.id = s.id → r = s

namespace Frame

variable {f s t : Frame} {ctx : WalkContext} {pc slot held : Word} {v w : StackView}

/-- The frame returns to one with these registers through the word below `sp`. Another pc in
that word leads to a frame with the same registers at that pc, unless it is the barrier. -/
structure ReturnsThrough (f : Frame) (ctx : WalkContext) (v : StackView)
    (sp unextendedSp fp pc : Word) : Prop where
  caller : (f.caller ctx ⟨false⟩).ending v = (.ok (ctx.frameOn v sp unextendedSp fp pc), v)
  redirected : ∀ {slot x : Word} {w : StackView}, sp.below? = some slot →
    ctx.isBarrier x = false → v.write? slot x = some w →
      (f.caller ctx ⟨false⟩).ending w = (.ok (ctx.frameOn w sp unextendedSp fp x), w)

/-- A store into the return slot of a frame that is left through its frame pointer. -/
theorem readAt?_of_returnSlot {sp x : Word} (hsp : f.fp.offset? FrameSlot.callerSp = some sp)
    (below : sp.below? = some slot) (stored : v.write? slot x = some w) (k : Int) :
    w.readAt? f.fp k = if k = FrameSlot.returnAddress then some x else v.readAt? f.fp k := by
  have place : f.fp.offset? FrameSlot.returnAddress = some slot :=
    Word.offset?_of_below? (by decide) hsp below
  rw [StackView.readAt?_of_write? stored]
  by_cases hk : k = FrameSlot.returnAddress
  · rw [if_pos hk, hk, if_pos place]
  · rw [if_neg hk, if_neg fun h => hk (Word.offset?_inj h place)]

theorem returnsThrough_of_interpreted (hk : f.kind = .interpreted)
    (free : ∀ x, f.returnWord? v = some x → ctx.isBarrier x = false)
    (h : (f.caller ctx ⟨false⟩).ending v = (.ok s, w)) :
    ∃ sp unextendedSp fp pc, f.ReturnsThrough ctx v sp unextendedSp fp pc := by
  obtain ⟨c, hc⟩ := interpretedCandidate?_of_caller hk h
  obtain ⟨hpc, hsp, husp, hfp⟩ := interpretedCandidate?_eq_some_iff.1 hc
  have ordinary : ctx.isBarrier c.pc = false := by
    refine free c.pc ?_
    rw [returnWord?, hk]
    exact hpc
  refine ⟨c.sp, c.unextendedSp, c.savedFp, c.pc, ?_, ?_⟩
  · rw [caller_ending_of_interpreted hk hc ctx ⟨false⟩ (goesPast ctx c.pc),
      ctx.crossing_of_not_isBarrier ordinary]
  · intro slot x u below plain stored
    have read := readAt?_of_returnSlot hsp below stored
    have moved : f.interpretedCandidate? u = some { c with pc := x } := by
      refine interpretedCandidate?_eq_some_iff.2 ⟨?_, hsp, ?_, ?_⟩
      · rw [read, if_pos rfl]
      · rw [read, if_neg (by decide), husp]
      · rw [read, if_neg (by decide), hfp]
    rw [caller_ending_of_interpreted hk moved ctx ⟨false⟩ (goesPast ctx x),
      ctx.crossing_of_not_isBarrier plain]

theorem returnsThrough_of_compiled (hk : f.kind = .compiled)
    (free : ∀ x, f.returnWord? v = some x → ctx.isBarrier x = false)
    (h : (f.caller ctx ⟨false⟩).ending v = (.ok s, w)) :
    ∃ sp unextendedSp fp pc, f.ReturnsThrough ctx v sp unextendedSp fp pc := by
  obtain ⟨r, sp, pc, fp, code, framed, hsp, hpc, hfp⟩ := readable_of_compiledCaller hk h
  have ordinary : ctx.isBarrier pc = false := by
    refine free pc ?_
    simp only [returnWord?, hk, code, hsp]
    exact hpc
  refine ⟨sp, sp, fp, pc, ?_, ?_⟩
  · rw [caller_ending_of_compiled hk code framed hsp hpc hfp ctx ⟨false⟩ (goesPast ctx pc),
      ctx.crossing_of_not_isBarrier ordinary]
  · intro slot x u below plain stored
    have place : sp.offset? (-1) = some slot :=
      Word.offset?_of_below? (by decide) (Word.offset?_zero sp) below
    have newPc : u.readAt? sp (-1) = some x := by
      rw [StackView.readAt?_of_write? stored, if_pos place]
    have sameFp : u.readAt? sp (-2) = some fp := by
      rw [StackView.readAt?_of_write? stored, if_neg, hfp]
      exact fun away => absurd (Word.offset?_inj away place) (by decide)
    rw [caller_ending_of_compiled hk code framed hsp newPc sameFp ctx ⟨false⟩ (goesPast ctx x),
      ctx.crossing_of_not_isBarrier plain]

theorem returnsThrough_of_native (hk : f.kind = .native)
    (h : (f.caller ctx ⟨false⟩).ending v = (.ok s, w)) :
    ∃ sp unextendedSp fp pc, f.ReturnsThrough ctx v sp unextendedSp fp pc := by
  obtain ⟨sp, fp, pc, hsp, hfp, hpc⟩ := readable_of_nativeCaller hk h
  refine ⟨sp, sp, fp, pc, caller_ending_of_native hk hsp hfp hpc ctx ⟨false⟩, ?_⟩
  intro slot x u below _ stored
  have read := readAt?_of_returnSlot hsp below stored
  refine caller_ending_of_native hk hsp ?_ ?_ ctx ⟨false⟩
  · rw [read, if_neg (by decide), hfp]
  · rw [read, if_pos rfl]

/-- Away from barriers every frame but an entry frame returns through one word. -/
theorem exists_returnsThrough
    (hk : f.kind = .interpreted ∨ f.kind = .compiled ∨ f.kind = .native)
    (free : ∀ x, f.returnWord? v = some x → ctx.isBarrier x = false)
    (h : (f.caller ctx ⟨false⟩).ending v = (.ok s, w)) :
    ∃ sp unextendedSp fp pc, f.ReturnsThrough ctx v sp unextendedSp fp pc := by
  rcases hk with hk | hk | hk
  · exact returnsThrough_of_interpreted hk free h
  · exact returnsThrough_of_compiled hk free h
  · exact returnsThrough_of_native hk h

/-! ## The patched frame built afresh -/

/-- A region with the id of the frame's region is that region. -/
theorem code_eq_region (unique : ctx.HasUniqueIds) (built : f.region = ctx.code f.rawPc)
    (same : (ctx.code pc).map (·.id) = f.region.map (·.id)) : ctx.code pc = f.region := by
  rw [built] at same ⊢
  cases hp : ctx.code pc with
  | none =>
      rw [hp, Option.map_none, eq_comm, Option.map_eq_none_iff] at same
      exact same.symm
  | some r =>
      rw [hp, Option.map_some, eq_comm, Option.map_eq_some_iff] at same
      obtain ⟨q, hq, ids⟩ := same
      rw [hq, unique pc f.rawPc r q hp hq ids.symm]

/-- The frame is in the deoptimization stub, which saves no pc, and none was saved. -/
def IsUnsavedInStub (region : Option CodeRegion) (pc unextendedSp : Word) (v : StackView) :
    Prop :=
  region.any (·.isDeoptStub) = true ∧ region.bind (·.savedPc? pc unextendedSp v) = none

/-- In any other case only a saved pc makes a frame a deoptimized one. -/
theorem deoptimizedPcIn_of_not_isUnsavedInStub {region : Option CodeRegion}
    {unextendedSp : Word} (h : ¬ IsUnsavedInStub region pc unextendedSp v) :
    deoptimizedPcIn region pc unextendedSp v =
      region.bind (·.savedPc? pc unextendedSp v) := by
  cases region with
  | none => rfl
  | some r =>
      rw [IsUnsavedInStub, Option.any_some, Option.bind_some] at h
      rw [deoptimizedPcIn, Option.bind_some]
      cases saved : r.savedPc? pc unextendedSp v with
      | some x => rfl
      | none =>
          have ordinary : ¬ r.isDeoptStub = true := fun stub => h ⟨stub, saved⟩
          rw [if_neg ordinary]
          rfl

/-- A patch answers the frame that is built afresh with the new pc. -/
theorem frameOn_of_isPatched {sp unextendedSp fp old : Word} {u : StackView}
    (unique : ctx.HasUniqueIds) (stub : (ctx.code old).any (·.isDeoptStub) = false)
    (p : (ctx.frameOn u sp unextendedSp fp old).IsPatched ctx pc v slot held t w) :
    ctx.frameOn w sp unextendedSp fp pc = t := by
  have code : ctx.code pc = ctx.code old := code_eq_region unique rfl p.sameCode
  have ordinary : ¬ IsUnsavedInStub (ctx.code old) pc unextendedSp w := fun unsaved =>
    Bool.false_ne_true (stub.symm.trans unsaved.1)
  rw [p.patched, withRawPc]
  simp only [WalkContext.frameOn, ofRegion, code]
  rw [deoptimizedPcIn_of_not_isUnsavedInStub ordinary]

/-- After a patch of its caller, a frame leads to the patched frame. -/
theorem caller_ending_of_patch {u : StackView} (unique : ctx.HasUniqueIds)
    (hk : f.kind = .interpreted ∨ f.kind = .compiled ∨ f.kind = .native)
    (free : ∀ x, f.returnWord? v = some x → ctx.isBarrier x = false)
    (computed : (f.caller ctx ⟨false⟩).ending v = (.ok s, u))
    (stub : s.region.any (·.isDeoptStub) = false) (plain : ctx.isBarrier pc = false)
    (patched : (s.patch ctx pc).ending u = (.ok t, w)) :
    (f.caller ctx ⟨false⟩).ending w = (.ok t, w) := by
  obtain ⟨sp, unextendedSp, fp, old, returns⟩ := exists_returnsThrough hk free computed
  rw [returns.caller] at computed
  cases computed
  obtain ⟨slot, held, p⟩ := patch_ending_eq_ok_iff.1 patched
  rw [returns.redirected p.below plain p.stored, frameOn_of_isPatched unique stub p]

end Frame

/-! ## A deoptimized caller

A compiled method was called by itself. The caller has saved its pc and is now redirected to
the deoptimization handler. -/

theorem CodeTable.mem_of_find? {t : CodeTable} {pc : Word} {r : CodeRegion}
    (h : t.find? pc = some r) : r ∈ t.regions := by
  rw [find?, Option.filter_eq_some_iff] at h
  exact (List.takeWhile_prefix _).subset (List.mem_of_getLast? h.1)

theorem hasUniqueIds_of_table {ctx : WalkContext} {t : CodeTable}
    (code : ctx.code = (CodeMap.mk t []).classify)
    (h : ∀ r ∈ t.regions, ∀ s ∈ t.regions, r.id = s.id → r = s) : ctx.HasUniqueIds := by
  intro p q r s hr hs
  rw [code] at hr hs
  exact h r (CodeTable.mem_of_find? hr) s (CodeTable.mem_of_find? hs)

namespace RedirectedCaller

/-- A method with frames of four words, which keep the saved pc in their second word. -/
def method : CodeRegion :=
  { CodeRegion.ofCode 0 (.compiled (some ⟨some 0x40, none, some 8, false⟩)) 0x5000 0x100 with
    frameSize := 4 }

def table : CodeTable := { CodeTable.empty with regions := [method] }

def context : WalkContext where
  code := (CodeMap.mk table []).classify
  metadata := .unknown
  continuations := some (.empty 0x7700)
  config := .standard
  isOwner := true

def view : StackView where
  memory :=
    { low := 0xa000
      low_aligned := rfl
      block := ⟨#[0, 0, 0, 0x5010, 0, 0x5010, 0, 0]⟩ }
  bounds := ⟨0xa040, 0xa000, 0⟩
  fits := by decide

def callee : Frame := context.frameOn view 0xa000 0xa000 0 0x5020

def caller : Frame := context.frameOn view 0xa020 0xa020 0 0x5010

/-- The caller after it was redirected to the handler. -/
def redirected : Frame := { caller with rawPc := 0x5040, deoptimizedPc := some 0x5010 }

/-- The stack after it. -/
def after : StackView := ((caller.patch context 0x5040).run view).stack

theorem caller_of_callee :
    context.HasUniqueIds ∧ callee.kind = .compiled ∧
      (∀ x, callee.returnWord? view = some x → context.isBarrier x = false) ∧
        (callee.caller context ⟨false⟩).ending view = (.ok caller, view) ∧
          caller.region.any (·.isDeoptStub) = false ∧ context.isBarrier 0x5040 = false ∧
            (caller.patch context 0x5040).ending view = (.ok redirected, after) ∧
              (callee.caller context ⟨false⟩).ending after = (.ok redirected, after) := by
  have unique : context.HasUniqueIds := hasUniqueIds_of_table rfl (by decide)
  have free : ∀ x, callee.returnWord? view = some x → context.isBarrier x = false := by
    rintro x ⟨⟩
    rfl
  have computed : (callee.caller context ⟨false⟩).ending view = (.ok caller, view) := rfl
  have patched : (caller.patch context 0x5040).ending view = (.ok redirected, after) := rfl
  exact ⟨unique, rfl, free, computed, rfl, rfl, patched,
    Frame.caller_ending_of_patch unique (Or.inr (Or.inl rfl)) free computed rfl rfl patched⟩

end RedirectedCaller

end StackWalk
