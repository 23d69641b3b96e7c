import Mathlib.Data.List.Chain
import StackWalk.Proofs.Safety.Managed
import StackWalk.Proofs.Walk.Step

/-!
# A checked walk makes progress

A walk that checks every frame and goes past continuations climbs the stack, whatever the
stack holds: each frame from which it goes on lies inside the stack, and the next frame lies
above it (`climbs_of_following`). So the frames of a run ascend, none is met twice, and no
run has more frames than the stack has addresses, and one more (`take_progress`).

The walk writes to the stack when it captures an anchor. Nothing of the argument depends on
the contents of the stack, only on its bounds, and those never change.
-/

set_option autoImplicit false

namespace StackWalk

open Inspection

/-- The stack pointers of the frame lie inside the stack: `sp` clear of the guard zone, and
the unextended one at or above it. -/
structure Frame.IsInside (b : StackBounds) (f : Frame) : Prop where
  above : b.usableFloor ≤ f.sp
  below : f.sp < b.base
  extended : f.sp ≤ f.unextendedSp
  bounded : f.unextendedSp ≤ b.base

/-- A walk may go on from `f` to `g`. -/
def Climbs (b : StackBounds) (f g : Frame) : Prop := f.IsInside b ∧ f.sp < g.sp

theorem Frame.isInside_of_verdict {f : Frame} {ctx : WalkContext} {v : StackView}
    (h : f.verdict ctx v = true) : f.IsInside v.bounds := by
  obtain ⟨-, above, below, extended, bounded⟩ :=
    stackPointersAreSafe_iff.1 (stackPointersAreSafe_of_verdict h)
  exact ⟨above, below, extended, bounded⟩

section Ascending

variable {b : StackBounds} {fs : List Frame}

instance : Trans (fun f g : Frame => f.sp < g.sp) (fun f g : Frame => f.sp < g.sp)
    (fun f g : Frame => f.sp < g.sp) where
  trans := UInt64.lt_trans

theorem pairwise_of_climbs (h : fs.IsChain (Climbs b)) :
    fs.Pairwise (fun f g => f.sp < g.sp) := by
  have ascends : fs.IsChain (fun f g => f.sp < g.sp) := h.imp fun _ _ hc => hc.2
  exact ascends.pairwise

theorem isInside_of_climbs (h : fs.IsChain (Climbs b)) : ∀ f ∈ fs.dropLast, f.IsInside b := by
  induction fs with
  | nil => simp
  | cons f fs ih =>
      cases fs with
      | nil => simp
      | cons g fs =>
          rw [List.isChain_cons_cons] at h
          intro f' mem
          rw [List.dropLast_cons_cons, List.mem_cons] at mem
          rcases mem with rfl | mem
          · exact h.1.1
          · exact ih h.2 f' mem

/-- What lies above `f` in an ascending list fits between `f` and the stack base. -/
theorem length_le_of_climbs_cons {f : Frame} (h : (f :: fs).IsChain (Climbs b)) :
    fs.length ≤ b.base.toNat - f.sp.toNat := by
  induction fs generalizing f with
  | nil => exact Nat.zero_le _
  | cons g fs ih =>
      rw [List.isChain_cons_cons] at h
      obtain ⟨⟨inside, ascends⟩, rest⟩ := h
      -- each frame of the rest takes at least one address from those below the base
      have below := UInt64.lt_iff_toNat_lt.1 inside.below
      have step := UInt64.lt_iff_toNat_lt.1 ascends
      have := ih rest
      rw [List.length_cons]
      omega

theorem length_le_of_climbs (h : fs.IsChain (Climbs b)) :
    fs.length ≤ b.base.toNat - b.usableFloor.toNat + 1 := by
  cases fs with
  | nil => exact Nat.zero_le _
  | cons f fs =>
      cases fs with
      | nil => exact Nat.le_add_left 1 _
      | cons g fs =>
          have bound := length_le_of_climbs_cons h
          rw [List.isChain_cons_cons] at h
          have above := UInt64.le_iff_toNat_le.1 h.1.1.above
          rw [List.length_cons]
          omega

end Ascending

namespace Walker

variable {w w' : Walker} {ctx : WalkContext} {f g : Frame} {v u : StackView}

theorem following_bounds (w : Walker) (ctx : WalkContext) (depth : Nat) (f : Frame)
    (v : StackView) : ((w.following ctx depth f).ending v).2.bounds = v.bounds := by
  rw [following_ending]
  split
  · rw [answered_snd]
    exact f.caller_bounds ctx w.options v
  · rfl

/-- One step of a checked walk. -/
theorem climbs_of_following {depth : Nat} (past : w.options.entersContinuations = false)
    (checked : w.trustsFirst = false)
    (h : (w.following ctx depth f).ending v = (.ok (some g), u)) : Climbs v.bounds f g := by
  obtain ⟨on, hg⟩ := following_ending_eq_some_iff.1 h
  rw [goesOn, checked, Bool.false_and, Bool.false_or, Bool.and_eq_true] at on
  exact ⟨Frame.isInside_of_verdict on.2,
    Frame.sp_lt_of_caller past (Frame.isOrdered_of_verdict on.2) hg⟩

/-- The frames of a run of a checked walk climb, beginning with the frame of the walker. -/
theorem isChain_of_take {count : Nat} {fs : List Frame}
    (past : w.options.entersContinuations = false) (checked : w.trustsFirst = false)
    (h : (take ctx count w).ending v = (.ok (fs, w'), u)) :
    fs.IsChain (Climbs v.bounds) ∧ ∀ f ∈ fs.head?, w.next = some f := by
  -- the walker and the memory change from step to step, the bounds of the stack do not
  induction count generalizing w v fs with
  | zero =>
      cases h
      exact ⟨.nil, by simp⟩
  | succ count ih =>
      cases hn : w.next with
      | none =>
          rw [take_ending_of_none hn] at h
          cases h
          exact ⟨.nil, by simp⟩
      | some f =>
          by_cases room : w.depth < ctx.config.maxDepth.toNat
          · obtain ⟨next, u₁, rest, hf, hr, rfl⟩ := take_ending_eq_ok hn room h
            obtain ⟨chain, first⟩ := @ih (w.passed next) u₁ rest past checked hr
            have kept := w.following_bounds ctx (w.depth + 1) f v
            rw [hf] at kept
            rw [kept] at chain
            -- the rest begins with the frame that followed `f`
            refine ⟨chain.cons fun g hg => ?_, by simp⟩
            cases first g hg
            exact climbs_of_following past checked hf
          · rw [take_ending_of_limit hn (Nat.not_lt.1 room)] at h
            cases h
            exact ⟨.nil, by simp⟩

/-- The frames of a checked walk that goes past continuations ascend, and all but the last
lie inside the stack. So none is yielded twice, and there are no more of them than the stack
has addresses, and one. A run that is cut off before it breaks a rule is one of a smaller
`count`. -/
theorem take_progress {options : WalkOptions} {count : Nat} {fs : List Frame}
    (past : options.entersContinuations = false)
    (run : ((take ctx count (startAt f options false)).run v).result = .ok (fs, w')) :
    fs.Pairwise (fun g h => g.sp < h.sp) ∧ (∀ g ∈ fs.dropLast, g.IsInside v.bounds) ∧
      fs.Nodup ∧ fs.length ≤ v.bounds.base.toNat - v.bounds.usableFloor.toNat + 1 := by
  have ends : (take ctx count (startAt f options false)).ending v =
      (.ok (fs, w'), ((take ctx count (startAt f options false)).run v).stack) :=
    Prod.ext run rfl
  obtain ⟨chain, -⟩ := isChain_of_take past rfl ends
  have ascends := pairwise_of_climbs chain
  refine ⟨ascends, isInside_of_climbs chain, ?_, length_le_of_climbs chain⟩
  refine ascends.imp fun lt same => ?_
  rw [same] at lt
  exact UInt64.lt_irrefl _ lt

end Walker

theorem ThreeFrames.ascending_of_run :
    ((Walker.take context 3 (.startAt youngest ⟨false⟩ false)).run view).result =
        .ok ([youngest, middle, oldest], ⟨none, 3, ⟨false⟩, false⟩) ∧
      [youngest, middle, oldest].Pairwise (fun g h => g.sp < h.sp) := by
  have run : ((Walker.take context 3 (.startAt youngest ⟨false⟩ false)).run view).result =
      .ok ([youngest, middle, oldest], ⟨none, 3, ⟨false⟩, false⟩) := rfl
  exact ⟨run, (Walker.take_progress rfl run).1⟩

end StackWalk
