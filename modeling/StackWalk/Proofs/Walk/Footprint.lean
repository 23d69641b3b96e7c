import StackWalk.Proofs.Frame.Ascent
import StackWalk.Proofs.Safety.Entry
import StackWalk.Proofs.Walk.Step

/-!
# What a walk writes

A walk inspects a stack, and yet it writes to it: it captures the pcs of the anchors that it
goes through. Nothing else is ever written. A word of the memory changes only if it was zero,
and then it is the pc word of the anchor of an entry frame or upcall frame from which the walk
went on, and it holds from then on the return address that stood below the stack pointer of
that anchor (`take_footprint`).

The memory is not otherwise restricted. A captured word may belong to several anchors, or to a
frame that the walk comes to later. What is said about one step (`step_memory`) holds on the
memory that the step finds, and it carries over to the end of the run because a word that is
not zero is never written again.
-/

set_option autoImplicit false

namespace StackWalk

open Inspection

namespace Frame

variable {f : Frame} {ctx : WalkContext} {options : WalkOptions} {v w : StackView}
  {site : AnchorSite} {r : Except Failure Frame}

/-- The frame is one of the two kinds that lead to an anchor, and `site` is the one it leads
to. -/
def LeadsTo (f : Frame) (ctx : WalkContext) (v : StackView) (site : AnchorSite) : Prop :=
  f.kind = .entry ∧ f.entryAnchor ctx.layout v = .ok site ∨
    f.kind = .upcall ∧ f.upcallAnchor v = .ok site

/-- The frame leads to the anchor `site`, whose pc is not known; `pc`, the word below the
recorded stack pointer, is not zero; and the memory becomes `w` by storing it in the pc word of
the anchor. -/
structure Captures (f : Frame) (ctx : WalkContext) (v : StackView) (site : AnchorSite)
    (pc : Word) (w : StackView) : Prop where
  leads : f.LeadsTo ctx v site
  unknown : site.anchor.lastPc = 0
  below : ∃ slot, site.anchor.lastSp.below? = some slot ∧ v.read? slot = some pc
  found : pc ≠ 0
  stored : ∀ a, w.memory.get? a =
    if site.address.offset? AnchorSite.pcOffset = some a then .ok (some pc)
    else v.memory.get? a

theorem load?_of_upcallAnchor (h : f.upcallAnchor v = .ok site) :
    AnchorSite.load? v site.address = some site := by
  rw [upcallAnchor] at h
  split at h
  · cases h
  · split at h
    · cases h
    · exact load?_of_anchorAbove h

theorem LeadsTo.load? (h : f.LeadsTo ctx v site) :
    AnchorSite.load? v site.address = some site := by
  rcases h with ⟨-, anchored⟩ | ⟨-, anchored⟩
  · exact load?_of_entryAnchor anchored
  · exact load?_of_upcallAnchor anchored

/-- A word that a capture changes is the pc word of the anchor. It was zero. -/
theorem Captures.of_changed {pc a : Word} (h : f.Captures ctx v site pc w)
    (changed : w.memory.get? a ≠ v.memory.get? a) :
    site.address.offset? AnchorSite.pcOffset = some a ∧ v.memory.get? a = .ok (some 0) ∧
      w.memory.get? a = .ok (some pc) := by
  have stored := h.stored a
  split at stored
  · next place =>
    obtain ⟨-, -, word, -⟩ := AnchorSite.load?_eq_some_iff.1 h.leads.load?
    obtain ⟨a', place', read⟩ := StackView.readAt?_eq_some_iff.1 word
    rw [place] at place'
    cases place'
    rw [h.unknown] at read
    exact ⟨place, StackView.memory_get?_of_read? read, stored⟩
  · exact absurd stored changed

/-- The stack pointer of the anchor stays where it is. -/
theorem Captures.memory_get?_sp {pc : Word} (h : f.Captures ctx v site pc w) :
    w.memory.get? site.address = .ok (some site.anchor.lastSp) := by
  obtain ⟨-, word, -, -⟩ := AnchorSite.load?_eq_some_iff.1 h.leads.load?
  obtain ⟨a, place, read⟩ := StackView.readAt?_eq_some_iff.1 word
  rw [AnchorSite.spOffset, Word.offset?_zero] at place
  cases place
  rw [h.stored, if_neg, StackView.memory_get?_of_read? read]
  intro same
  cases Word.offset?_inj (Word.offset?_zero _) same

theorem Captures.lastSp_ne_zero {pc : Word} (h : f.Captures ctx v site pc w) :
    site.anchor.lastSp ≠ 0 := by
  obtain ⟨slot, below, -⟩ := h.below
  intro zero
  rw [zero] at below
  cases below

/-! ## One step -/

/-- Following an anchor leaves the memory as it is, or captures the pc and finds the caller. -/
theorem callerFromAnchor_memory (leads : f.LeadsTo ctx v site)
    (h : (f.callerFromAnchor ctx site).ending v = (r, w)) :
    (∀ a, w.memory.get? a = v.memory.get? a) ∨
      ∃ s pc, r = .ok s ∧ f.Captures ctx v site pc w := by
  rw [callerFromAnchor_ending] at h
  split at h
  · cases h
    exact Or.inl fun _ => rfl
  · split at h
    · cases h
      exact Or.inl fun _ => rfl
    · split at h
      · cases h
        exact Or.inl fun _ => rfl
      · next b hc =>
        rw [recordedCaller] at h
        cases h
        rcases Anchor.eq_or_capturesTo_of_captured hc with same | ⟨unknown, pc, found, word, eq⟩
        · left
          intro a
          rw [same, AnchorSite.put_same leads.load?]
        · right
          have walkable : b.isWalkable = true := by
            rw [eq]
            exact decide_eq_true found
          refine ⟨_, pc, if_pos walkable, leads, unknown, ?below, found, ?stored⟩
          case below => exact Anchor.returnPcBelow_eq_ok_iff.1 word
          case stored =>
            rw [eq]
            exact AnchorSite.memory_get?_put leads.load? pc

/-- Looking for the caller in an anchor, if there is one. -/
theorem anchored_memory {x : Except FrameError AnchorSite}
    (leads : ∀ site, x = .ok site → f.LeadsTo ctx v site) (h : f.anchored ctx v x = (r, w)) :
    (∀ a, w.memory.get? a = v.memory.get? a) ∨
      ∃ s site pc, r = .ok s ∧ f.Captures ctx v site pc w := by
  cases x with
  | error e =>
      cases h
      exact Or.inl fun _ => rfl
  | ok site =>
      rcases callerFromAnchor_memory (leads site rfl) h with same | ⟨s, pc, found, captures⟩
      · exact Or.inl same
      · exact Or.inr ⟨s, site, pc, found, captures⟩

/-- Computing a caller leaves the memory as it is, or captures the pc of one anchor. -/
theorem caller_memory (h : (f.caller ctx options).ending v = (r, w)) :
    (∀ a, w.memory.get? a = v.memory.get? a) ∨
      ∃ s site pc, r = .ok s ∧ f.Captures ctx v site pc w := by
  cases hk : f.kind with
  | entry =>
      rw [caller_ending_of_entry hk] at h
      exact anchored_memory (fun site anchored => Or.inl ⟨hk, anchored⟩) h
  | upcall =>
      rw [caller_ending_of_upcall hk] at h
      exact anchored_memory (fun site anchored => Or.inr ⟨hk, anchored⟩) h
  | interpreted | compiled | native =>
      left
      intro a
      have same := f.isReadOnly_caller (by simp [hk]) (by simp [hk]) ctx options v
      rw [h] at same
      change w = v at same
      rw [same]

end Frame

namespace Walker

variable {w w' : Walker} {ctx : WalkContext} {f : Frame} {v u : StackView}

/-- The walker yields `f` and goes on from it to another frame. The memory is `v` before that
step and `u` after it. -/
def AdvancesFrom (w : Walker) (ctx : WalkContext) (v : StackView) (f : Frame) (u : StackView) :
    Prop :=
  w.next = some f ∧ ∃ s, (w.step ctx).ending v = (.ok (some f, w.passed (some s)), u)

/-- To learn what follows a frame leaves the memory as it is, or captures the pc of an anchor, and
then a caller follows. -/
theorem following_memory {depth : Nat} {r : Except Failure (Option Frame)}
    (h : (w.following ctx depth f).ending v = (r, u)) :
    (∀ a, u.memory.get? a = v.memory.get? a) ∨
      ∃ s site pc, r = .ok (some s) ∧ f.Captures ctx v site pc u := by
  rw [following_ending] at h
  split at h
  · rcases hc : (f.caller ctx w.options).ending v with ⟨r', u'⟩
    rw [hc] at h
    -- whatever the answer was, the walk itself writes nothing
    obtain rfl : u' = u := (answered_snd (r', u')).symm.trans (congrArg Prod.snd h)
    rcases Frame.caller_memory hc with same | ⟨s, site, pc, rfl, captures⟩
    · exact Or.inl same
    · cases h
      exact Or.inr ⟨s, site, pc, rfl, captures⟩
  · cases h
    exact Or.inl fun _ => rfl

/-- A step leaves the memory as it is, or it goes on from a frame and captures the pc of an
anchor. -/
theorem step_memory {r : Except Failure (Option Frame × Walker)}
    (h : (w.step ctx).ending v = (r, u)) :
    (∀ a, u.memory.get? a = v.memory.get? a) ∨
      ∃ f site pc, w.AdvancesFrom ctx v f u ∧ f.Captures ctx v site pc u := by
  cases hn : w.next with
  | none =>
      rw [step_ending_of_none hn] at h
      cases h
      exact Or.inl fun _ => rfl
  | some f =>
      by_cases room : w.depth < ctx.config.maxDepth.toNat
      · have ends := h
        rw [step_ending_of_some hn room] at h
        rcases hf : (w.following ctx (w.depth + 1) f).ending v with ⟨r', u'⟩
        rw [hf] at h
        rcases following_memory hf with same | ⟨s, site, pc, rfl, captures⟩
        · left
          cases r' with
          | error e =>
              cases h
              exact same
          | ok next =>
              cases h
              exact same
        · cases h
          exact Or.inr ⟨f, site, pc, ⟨hn, s, ends⟩, captures⟩
      · rw [step_ending_of_limit hn (Nat.not_lt.1 room)] at h
        cases h
        exact Or.inl fun _ => rfl

/-! ## A whole walk -/

/-- The walker `w` on the memory `v` becomes `w'` on the memory `u` by yielding `n` frames. -/
inductive Reaches (ctx : WalkContext) : Nat → Walker → StackView → Walker → StackView → Prop
  | start (w : Walker) (v : StackView) : Reaches ctx 0 w v w v
  | step {n : Nat} {w w₁ w' : Walker} {v v₁ u : StackView} {f : Frame}
      (first : (w.step ctx).ending v = (.ok (some f, w₁), v₁)) (rest : Reaches ctx n w₁ v₁ w' u) :
      Reaches ctx (n + 1) w v w' u

/-- Within `count` frames the walk comes to one from which it goes on and with which it captures
the pc of an anchor. The word at `a` is the pc word of that anchor. In the memory `after` it
holds the pc that was captured, and the word at the anchor is the stack pointer below which
that pc was found. -/
def CapturesAt (w : Walker) (ctx : WalkContext) (count : Nat) (v after : StackView) (a : Word) :
    Prop :=
  ∃ n w' u u' f site pc, n < count ∧ Reaches ctx n w v w' u ∧ w'.AdvancesFrom ctx u f u' ∧
    f.Captures ctx u site pc u' ∧ site.address.offset? AnchorSite.pcOffset = some a ∧
      after.memory.get? a = .ok (some pc) ∧
        after.memory.get? site.address = .ok (some site.anchor.lastSp)

/-- What is captured after the first step is captured on the walk. -/
theorem CapturesAt.of_step {count : Nat} {w₁ : Walker} {v₁ after : StackView} {a : Word}
    (first : (w.step ctx).ending v = (.ok (some f, w₁), v₁))
    (h : w₁.CapturesAt ctx count v₁ after a) : w.CapturesAt ctx (count + 1) v after a := by
  obtain ⟨n, w', u, u', g, site, pc, lt, reaches, rest⟩ := h
  exact ⟨n + 1, w', u, u', g, site, pc, Nat.succ_lt_succ lt, .step first reaches, rest⟩

/-- If only words that were zero have changed, all others are as they were. -/
theorem memory_get?_of_changed {v after : StackView} {a x : Word} {P : Prop}
    (h : after.memory.get? a ≠ v.memory.get? a → v.memory.get? a = .ok (some 0) ∧ P)
    (nonzero : x ≠ 0) (word : v.memory.get? a = .ok (some x)) :
    after.memory.get? a = .ok (some x) := by
  by_contra changed
  rw [← word] at changed
  have zero := (h changed).1
  rw [word] at zero
  cases zero
  exact nonzero rfl

/-- A step that yields nothing writes nothing. -/
theorem memory_get?_of_idle {r : Except Failure (Option Frame × Walker)}
    (h : (w.step ctx).ending v = (r, u)) (idle : ∀ f w', r ≠ .ok (some f, w')) (a : Word) :
    u.memory.get? a = v.memory.get? a := by
  rcases step_memory h with same | ⟨f, site, pc, ⟨-, s, ends⟩, -⟩
  · exact same a
  · rw [h] at ends
    cases ends
    exact absurd rfl (idle f _)

theorem yielding_snd (f : Frame) (x : Except Failure (List Frame × Walker) × StackView) :
    (yielding f x).2 = x.2 := by
  rcases x with ⟨_ | _, _⟩ <;> rfl

/-- A word of the memory that a run has changed was zero, and it was captured. -/
theorem capturesAt_of_take (count : Nat) (w : Walker) (v : StackView) (a : Word)
    (changed : ((take ctx count w).ending v).2.memory.get? a ≠ v.memory.get? a) :
    v.memory.get? a = .ok (some 0) ∧
      w.CapturesAt ctx count v ((take ctx count w).ending v).2 a := by
  induction count generalizing w v a with
  | zero => exact absurd rfl changed
  | succ count ih =>
      rcases step : (w.step ctx).ending v with ⟨e | ⟨_ | f, w₁⟩, v₁⟩
      -- a step that ends the run has written nothing
      · rw [take_succ_ending, step] at changed
        exact absurd (memory_get?_of_idle step (by simp) a) changed
      · rw [take_succ_ending, step] at changed
        exact absurd (memory_get?_of_idle step (by simp) a) changed
      · have after : ((take ctx (count + 1) w).ending v).2 = ((take ctx count w₁).ending v₁).2 := by
          rw [take_succ_ending, step]
          exact yielding_snd f _
        rw [after] at changed ⊢
        by_cases now : v₁.memory.get? a = v.memory.get? a
        · rw [← now] at changed ⊢
          obtain ⟨zero, captured⟩ := ih w₁ v₁ a changed
          exact ⟨zero, captured.of_step step⟩
        · -- it is captured in the first step, and what that left is not written again
          rcases step_memory step with same | ⟨g, site, pc, advances, captures⟩
          · exact absurd (same a) now
          · obtain ⟨place, zero, stored⟩ := captures.of_changed now
            have kept : ∀ {b x : Word}, x ≠ 0 → v₁.memory.get? b = .ok (some x) →
                ((take ctx count w₁).ending v₁).2.memory.get? b = .ok (some x) :=
              memory_get?_of_changed (ih w₁ v₁ _)
            exact ⟨zero, 0, w, v, v₁, g, site, pc, Nat.succ_pos count, .start w v, advances,
              captures, place, kept captures.found stored,
              kept captures.lastSp_ne_zero captures.memory_get?_sp⟩

/-- What a walk writes, however it begins, wherever it stops and whether or not it breaks a rule
of use. No word that was not zero is changed. A word that is changed was zero and is the pc word
of an anchor through which the walk went on; it holds the pc that was captured for the anchor. -/
theorem take_footprint (ctx : WalkContext) (f : Frame) (options : WalkOptions) (trusts : Bool)
    (count : Nat) (v : StackView) (a : Word) :
    (∀ x, x ≠ 0 → v.memory.get? a = .ok (some x) →
        ((take ctx count (startAt f options trusts)).run v).stack.memory.get? a =
          .ok (some x)) ∧
      (((take ctx count (startAt f options trusts)).run v).stack.memory.get? a ≠
          v.memory.get? a →
        v.memory.get? a = .ok (some 0) ∧
          (startAt f options trusts).CapturesAt ctx count v
            ((take ctx count (startAt f options trusts)).run v).stack a) := by
  constructor
  · intro x nonzero word
    exact memory_get?_of_changed (capturesAt_of_take count _ v a) nonzero word
  · intro changed
    exact capturesAt_of_take count _ v a changed

end Walker

/-- A walk from the frame of the call stub leaves the pc in its anchor, which was without. -/
theorem LateCapture.capturesAt_of_walk :
    ((Walker.take context 2 (.startAt frame ⟨false⟩ false)).run
        (view 0x5000)).stack.memory.get? 0x9068 = .ok (some 0x5000) ∧
      (Walker.startAt frame ⟨false⟩ false).CapturesAt context 2 (view 0x5000)
        ((Walker.take context 2 (.startAt frame ⟨false⟩ false)).run (view 0x5000)).stack
        0x9068 := by
  have written : ((Walker.take context 2 (.startAt frame ⟨false⟩ false)).run
      (view 0x5000)).stack.memory.get? 0x9068 = .ok (some 0x5000) := rfl
  refine ⟨written, ?_⟩
  apply ((Walker.take_footprint context frame ⟨false⟩ false 2 (view 0x5000) 0x9068).2 ?_).2
  rw [written]
  intro same
  cases same

end StackWalk
