import StackWalk.Proofs.Frame.Anchored
import StackWalk.ThreadImage

/-!
# Episodes of a thread's anchor

An anchor lives through episodes. A new record, or its removal, starts one; until the next
such call the pc may be captured, while the stack memory may be rewritten in any way at any
time. `next?` is one event of such a life, and `history` all the images from event to event,
up to the first broken rule of use.

Which events break a rule is known beforehand (`next?_isSome_iff`): a record, its removal and
rewriting the stack never do, nor does `ensureWalkable` on a stack that can be viewed at all.
What an event can do to the anchor is said in two lemmas. An event that starts an episode sets
the recorded frame (`next?_of_announced`). Any other event leaves the anchor as it is, or sets
a pc that was zero to the word below the recorded stack pointer (`next?_of_silent`). Along a
history it follows that the recorded frame is always the one that was announced last
(`history_record`), and that the pc of an episode is captured once and then frozen
(`history_capturedOnce`).
-/

set_option autoImplicit false

namespace StackWalk

open Inspection

/-- Calls that work on an anchor. -/
inductive AnchorCall where
  /-- Record the frame at `sp` and `fp`, with `pc` zero if it is not known yet. -/
  | record (sp fp pc : Word)
  /-- Remove the record. -/
  | clear
  | capture
  | ensureWalkable
  /-- The caller owns the stack, or it does not. -/
  | makeWalkable (isOwner : Bool)
  deriving DecidableEq, Repr

/-- What happens while an anchor is in use. -/
inductive AnchorEvent where
  | call (c : AnchorCall)
  /-- The stack memory is rewritten. -/
  | rewrite (memory : Snapshot)

namespace AnchorCall

/-- The call, on the contents of the anchor. -/
def operation : AnchorCall → Anchor → Inspection Anchor
  | .record sp fp pc, _ => pure (Anchor.record sp fp pc)
  | .clear, _ => pure Anchor.empty
  | .capture, a => a.capture
  | .ensureWalkable, a => a.ensureWalkable
  | .makeWalkable isOwner, a => a.makeWalkable isOwner

/-- On the stack `v` the call breaks no rule of use. -/
def KeepsRules (c : AnchorCall) (a : Anchor) (v : StackView) : Prop :=
  ∀ e, ((c.operation a).ending v).1 ≠ .error (.violation e)

/-- The stack pointer and the frame pointer with which the call starts an episode. -/
def announced? : AnchorCall → Option (Word × Word)
  | .record sp fp _ => some (sp, fp)
  | .clear => some (0, 0)
  | .capture | .ensureWalkable | .makeWalkable _ => none

end AnchorCall

/-- The stack pointer and the frame pointer with which the event starts an episode. -/
def AnchorEvent.announced? : AnchorEvent → Option (Word × Word)
  | .call c => c.announced?
  | .rewrite _ => none

namespace ThreadImage

/-- The call on the anchor that the thread keeps. To start an episode takes no stack; all other
calls are made on a view of it. -/
def perform (t : ThreadImage) (c : AnchorCall) : Report (Option Anchor) :=
  match c with
  | .record sp fp pc => t.setAnchor (Anchor.record sp fp pc)
  | .clear => t.setAnchor .empty
  | .capture | .ensureWalkable | .makeWalkable _ => t.inspectAnchor none fun _ => c.operation

/-- The image after one event; there is none if a rule of use is broken. -/
def next? (t : ThreadImage) : AnchorEvent → Option ThreadImage
  | .call c =>
      match (t.perform c).result with
      | .error (.violation _) => none
      | _ => some (t.perform c).image
  | .rewrite memory => some { t with memory := memory }

/-- The image, and those after each of the events up to the first broken rule of use. -/
def history (t : ThreadImage) : List AnchorEvent → List ThreadImage
  | [] => [t]
  | e :: events =>
      match t.next? e with
      | none => [t]
      | some u => t :: u.history events

/-- The stack word below the recorded stack pointer can be read, and it is `p`. -/
def HasReturnWord (t : ThreadImage) (p : Word) : Prop :=
  ∃ v slot, StackView.ofSnapshot t.memory t.bounds = .ok v ∧
    t.anchor.lastSp.below? = some slot ∧ v.read? slot = some p

/-- The stack of the image can be viewed. -/
def IsViewable (t : ThreadImage) : Prop :=
  ∃ v, StackView.ofSnapshot t.memory t.bounds = .ok v

/-- The event keeps the rules of use. -/
def Allows (t : ThreadImage) : AnchorEvent → Prop
  | .rewrite _ | .call (.record _ _ _) | .call .clear => True
  | .call .ensureWalkable => t.IsViewable
  | .call .capture => t.IsViewable ∧ t.anchor.lastSp ≠ 0 ∧ t.anchor.lastPc = 0
  | .call (.makeWalkable isOwner) => t.IsViewable ∧
      (t.anchor.lastSp ≠ 0 → t.anchor.lastPc = 0 → isOwner = true ∧ ¬ t.HasReturnWord 0)

/-- Along the images the pc of the anchor changes at most once: from zero to a word that is
not zero and that stands, at the moment of the change, below the recorded stack pointer. -/
def CapturedOnce (images : List ThreadImage) : Prop :=
  ∃ before after pc, images = before ++ after ∧ (∀ m ∈ before, m.anchor.lastPc = pc) ∧
    (after = [] ∨ pc = 0 ∧ ∃ m p, before.getLast? = some m ∧ p ≠ 0 ∧ m.HasReturnWord p ∧
      ∀ n ∈ after, n.anchor.lastPc = p)

end ThreadImage

namespace Anchor

variable {a b : Anchor} {v w : StackView} {p : Word}

theorem capture_ending (a : Anchor) (v : StackView) :
    a.capture.ending v =
      if !a.hasLastFrame then (.error (.violation .noLastFrame), v)
      else if a.isWalkable then (.error (.violation .anchorAlreadyWalkable), v)
      else ((a.captured v).mapError .error, v) := by
  rw [capture, captured]
  cases hl : a.hasLastFrame with
  | false => rfl
  | true =>
      cases hw : a.isWalkable with
      | true => rfl
      | false =>
          rw [ending_bind_ok (ending_require true _ v), Bool.not_false,
            ending_bind_ok (ending_require true _ v), ending_bind_ok (ending_stack v)]
          cases returnPcBelow v a.lastSp <;> rfl

theorem makeWalkable_ending (a : Anchor) (isOwner : Bool) (v : StackView) :
    (a.makeWalkable isOwner).ending v =
      if !a.hasLastFrame || a.isWalkable then (.ok a, v)
      else if !isOwner then (.error (.violation .notOwner), v)
      else
        match a.captured v with
        | .error e => (.error (.error e), v)
        | .ok b => (if b.isWalkable then .ok b else .error (.violation .nullPcCaptured), v) := by
  rw [makeWalkable]
  cases known : !a.hasLastFrame || a.isWalkable with
  | true => rfl
  | false =>
      rw [if_neg Bool.false_ne_true, if_neg Bool.false_ne_true]
      cases isOwner with
      | false => rfl
      | true =>
          obtain ⟨recorded, unknown⟩ := Bool.or_eq_false_iff.1 known
          rw [ending_bind_ok (ending_require true _ v), ending_bind, capture_ending, recorded,
            unknown]
          cases a.captured v with
          | error e => rfl
          | ok b =>
              show (require b.isWalkable .nullPcCaptured >>= fun _ => pure b).ending v =
                (if b.isWalkable then .ok b else .error (.violation .nullPcCaptured), v)
              rw [ending_require_bind]
              cases b.isWalkable <;> rfl

theorem captured_of_mapError (h : ((a.captured v).mapError Failure.error, v) = (.ok b, w)) :
    a.captured v = .ok b := by
  cases hc : a.captured v with
  | error e =>
      rw [hc] at h
      cases h
  | ok b' =>
      rw [hc] at h
      cases h
      rfl

/-- Where the pc cannot be read that is an error. -/
theorem captured_ne_violation (a : Anchor) (v : StackView) (e : Violation) :
    (a.captured v).mapError Failure.error ≠ .error (.violation e) := by
  intro broken
  cases captured : a.captured v with
  | error e' =>
      rw [captured] at broken
      cases broken
  | ok b =>
      rw [captured] at broken
      cases broken

/-- From a record without a pc, with a word below its stack pointer that is not zero, the pc
is captured. -/
theorem captured_of_capturesTo (recorded : a.hasLastFrame = true) (h : a.CapturesTo v b) :
    a.captured v = .ok b := by
  obtain ⟨zero, p, -, word, rfl⟩ := h
  rw [captured_of_hasLastFrame recorded, if_neg (not_not_intro zero), word]
  rfl

end Anchor

namespace AnchorCall

variable {c : AnchorCall} {a b : Anchor} {v w : StackView}

/-! ## Rules of use -/

/-- A walker may ask for the pc of any anchor. -/
theorem keepsRules_ensureWalkable : ensureWalkable.KeepsRules a v := by
  intro e
  rw [operation, Anchor.ensureWalkable_ending]
  exact a.captured_ne_violation v e

theorem keepsRules_capture_iff : capture.KeepsRules a v ↔ a.lastSp ≠ 0 ∧ a.lastPc = 0 := by
  rw [KeepsRules, operation, Anchor.capture_ending, Anchor.hasLastFrame, Anchor.isWalkable]
  by_cases recorded : a.lastSp = 0
  · simp [recorded]
  · by_cases unknown : a.lastPc = 0
    · simp [recorded, unknown, Anchor.captured_ne_violation]
    · simp [recorded, unknown]

/-- The owner may always ask for the pc, unless it is unknown and zero is found. -/
theorem keepsRules_makeWalkable_iff {isOwner : Bool} :
    (makeWalkable isOwner).KeepsRules a v ↔
      (a.lastSp ≠ 0 → a.lastPc = 0 →
        isOwner = true ∧ Anchor.returnPcBelow v a.lastSp ≠ .ok 0) := by
  rw [KeepsRules, operation, Anchor.makeWalkable_ending]
  by_cases recorded : a.lastSp = 0
  · simp [recorded, Anchor.hasLastFrame]
  by_cases unknown : a.lastPc = 0
  · have known : a.hasLastFrame = true := decide_eq_true recorded
    rw [Anchor.captured_of_hasLastFrame known, if_neg (not_not_intro unknown), known]
    cases isOwner with
    | false => simp [recorded, unknown, Anchor.isWalkable]
    | true =>
        cases Anchor.returnPcBelow v a.lastSp with
        | error e => simp [unknown, Anchor.isWalkable, Except.map]
        | ok p =>
            by_cases zero : p = 0 <;>
              simp [recorded, unknown, zero, Anchor.isWalkable, Except.map]
  · simp [unknown, Anchor.isWalkable]

/-! ## What a call does to an anchor -/

/-- A call that starts no episode leaves the anchor as it is, or captures its pc. -/
theorem eq_or_capturesTo_of_silent (silent : c.announced? = none)
    (h : (c.operation a).ending v = (.ok b, w)) : b = a ∨ a.CapturesTo v b := by
  cases c with
  | record sp fp pc => cases silent
  | clear => cases silent
  | capture =>
      rw [operation, Anchor.capture_ending] at h
      split at h
      · cases h
      · split at h
        · cases h
        · exact Anchor.eq_or_capturesTo_of_captured (Anchor.captured_of_mapError h)
  | ensureWalkable =>
      rw [operation, Anchor.ensureWalkable_ending] at h
      exact Anchor.eq_or_capturesTo_of_captured (Anchor.captured_of_mapError h)
  | makeWalkable isOwner =>
      rw [operation, Anchor.makeWalkable_ending] at h
      split at h
      · cases h
        exact Or.inl rfl
      · split at h
        · cases h
        · split at h
          · cases h
          · next b' hc =>
            split at h
            · cases h
              exact Anchor.eq_or_capturesTo_of_captured hc
            · cases h

/-- Calls that capture a pc, made by the thread that owns the stack. -/
def capturing : List AnchorCall := [.capture, .ensureWalkable, .makeWalkable true]

/-- All the calls that capture a pc come to the same anchor. -/
theorem operation_of_capturesTo (hc : c ∈ capturing) (recorded : a.hasLastFrame = true)
    (h : a.CapturesTo v b) : (c.operation a).ending v = (.ok b, v) := by
  have captured := Anchor.captured_of_capturesTo recorded h
  obtain ⟨zero, p, found, -, rfl⟩ := h
  have unknown : a.isWalkable = false := by simp [Anchor.isWalkable, zero]
  have known : ({ a with lastPc := p } : Anchor).isWalkable = true := by
    simp [Anchor.isWalkable, found]
  simp only [capturing, List.mem_cons, List.not_mem_nil, or_false] at hc
  rcases hc with rfl | rfl | rfl
  · rw [operation, Anchor.capture_ending, recorded, unknown, captured]
    rfl
  · rw [operation, Anchor.ensureWalkable_ending, captured]
    rfl
  · rw [operation, Anchor.makeWalkable_ending, recorded, unknown, captured]
    simp [known]

end AnchorCall

namespace ThreadImage

variable {t u : ThreadImage} {c : AnchorCall} {v w : StackView} {b : Anchor}
  {failure : Failure}

/-! ## One event -/

/-- Inspecting an image does not touch the anchor that the thread keeps. -/
theorem inspect_anchor {α : Type} (t : ThreadImage) (x : WalkContext → Inspection α) :
    (t.inspect x).image.anchor = t.anchor := by
  rw [inspect]
  split <;> rfl

theorem inspect_pure {α : Type} (view : StackView.ofSnapshot t.memory t.bounds = .ok v) (a : α) :
    (t.inspect fun _ => pure a) = ⟨.ok a, [], t⟩ := by
  have same : v.memory = t.memory := by
    rw [StackView.ofSnapshot] at view
    split at view
    · cases view
      rfl
    · cases view
  rw [inspect, view]
  -- no look-up is counted, and no word was stored
  show (⟨.ok a, [], { t with memory := v.memory, code := t.code.countLookups [] }⟩ : Report α) = _
  rw [same]
  rfl

theorem perform_of_silent (silent : c.announced? = none) :
    t.perform c = t.inspectAnchor none fun _ => c.operation := by
  cases c with
  | record sp fp pc => cases silent
  | clear => cases silent
  | capture => rfl
  | ensureWalkable => rfl
  | makeWalkable isOwner => rfl

/-- Where the stack can be viewed, it makes no difference that an episode starts without it. -/
theorem perform_eq_inspectAnchor (view : StackView.ofSnapshot t.memory t.bounds = .ok v)
    (c : AnchorCall) : t.perform c = t.inspectAnchor none fun _ => c.operation := by
  cases c with
  | record sp fp pc =>
      have recorded := inspect_pure view (Anchor.record sp fp pc)
      simp only [perform, setAnchor, inspectAnchor, AnchorCall.operation, recorded]
  | clear =>
      have cleared := inspect_pure view Anchor.empty
      simp only [perform, setAnchor, inspectAnchor, AnchorCall.operation, cleared]
  | capture => exact perform_of_silent rfl
  | ensureWalkable => exact perform_of_silent rfl
  | makeWalkable isOwner => exact perform_of_silent rfl

/-- A call that has a result leaves it in the anchor. -/
theorem perform_of_ok (view : StackView.ofSnapshot t.memory t.bounds = .ok v)
    (h : (c.operation t.anchor).ending v = (.ok b, w)) :
    (t.perform c).result = .ok (some b) ∧ (t.perform c).image.anchor = b := by
  have inspected : (t.inspect fun _ => c.operation t.anchor).result = .ok b := by
    rw [inspect, view]
    exact result_of_ending h
  rw [perform_eq_inspectAnchor view, inspectAnchor]
  simp only [inspected, and_self]

/-- A call that fails does not touch the anchor. -/
theorem perform_of_error (view : StackView.ofSnapshot t.memory t.bounds = .ok v)
    (h : (c.operation t.anchor).ending v = (.error failure, w)) :
    (t.perform c).result = .error failure ∧ (t.perform c).image.anchor = t.anchor := by
  have inspected : (t.inspect fun _ => c.operation t.anchor).result = .error failure := by
    rw [inspect, view]
    exact result_of_ending h
  rw [perform_eq_inspectAnchor view, inspectAnchor]
  simp only [inspected, inspect_anchor, and_self]

/-- A call that starts no episode and breaks no rule of use was made on a view of the memory. -/
theorem isViewable_of_perform (silent : c.announced? = none)
    (h : ∀ e, (t.perform c).result ≠ .error (.violation e)) : t.IsViewable := by
  cases view : StackView.ofSnapshot t.memory t.bounds with
  | ok v => exact ⟨v, view⟩
  | error e =>
      refine absurd ?_ (h e)
      rw [perform_of_silent silent, inspectAnchor, inspect]
      simp only [view]

/-- A call that returns an error leaves the anchor as it was. -/
theorem anchor_of_perform_error {e : FrameError} (h : (t.perform c).result = .error (.error e)) :
    (t.perform c).image.anchor = t.anchor := by
  have silent : c.announced? = none := by
    cases c with
    | record sp fp pc => cases h
    | clear => cases h
    | capture | ensureWalkable | makeWalkable isOwner => rfl
  have unbroken : ∀ e', (t.perform c).result ≠ .error (.violation e') := by
    intro e'
    rw [h]
    simp
  obtain ⟨v, view⟩ := isViewable_of_perform silent unbroken
  rcases ending : (c.operation t.anchor).ending v with ⟨failure | b, w⟩
  · exact (perform_of_error view ending).2
  · rw [(perform_of_ok view ending).1] at h
    cases h

/-- What a call that starts no episode and breaks no rule of use comes to: its operation has an
answer, which is in the anchor now, or it has an error and the anchor is as it was. -/
theorem next?_call (silent : c.announced? = none) (h : t.next? (.call c) = some u) :
    ∃ v w, StackView.ofSnapshot t.memory t.bounds = .ok v ∧
      ((c.operation t.anchor).ending v = (.ok u.anchor, w) ∨
        ∃ e, (c.operation t.anchor).ending v = (.error (.error e), w) ∧ u.anchor = t.anchor) := by
  rw [next?] at h
  split at h
  · cases h
  · next unbroken =>
    cases h
    obtain ⟨v, view⟩ := isViewable_of_perform silent unbroken
    rcases ending : (c.operation t.anchor).ending v with ⟨failure | b, w⟩
    · have failed := perform_of_error view ending
      cases failure with
      | violation broken => exact absurd failed.1 (unbroken broken)
      | error e => exact ⟨v, w, view, Or.inr ⟨e, ending, failed.2⟩⟩
    · refine ⟨v, w, view, Or.inl ?_⟩
      rw [(perform_of_ok view ending).2, ending]

/-- Such a call leads on if its operation keeps the rules of use on a view of the memory. -/
theorem next?_call_isSome_iff (silent : c.announced? = none) :
    (t.next? (.call c)).isSome = true ↔
      ∃ v, StackView.ofSnapshot t.memory t.bounds = .ok v ∧ c.KeepsRules t.anchor v := by
  constructor
  · intro h
    obtain ⟨u, next⟩ := Option.isSome_iff_exists.1 h
    obtain ⟨v, w, view, ending | ⟨e, ending, -⟩⟩ := next?_call silent next
    · exact ⟨v, view, fun broken => by simp [ending]⟩
    · exact ⟨v, view, fun broken => by simp [ending]⟩
  · rintro ⟨v, view, keeps⟩
    rw [next?]
    split
    · next broken failed =>
      rcases ending : (c.operation t.anchor).ending v with ⟨failure | b, w⟩
      · rw [(perform_of_error view ending).1] at failed
        cases failed
        exact absurd (congrArg Prod.fst ending) (keeps broken)
      · rw [(perform_of_ok view ending).1] at failed
        cases failed
    · rfl

theorem hasReturnWord_iff (view : StackView.ofSnapshot t.memory t.bounds = .ok v) {p : Word} :
    t.HasReturnWord p ↔ Anchor.returnPcBelow v t.anchor.lastSp = .ok p := by
  rw [Anchor.returnPcBelow_eq_ok_iff]
  constructor
  · rintro ⟨v', slot, view', below, read⟩
    cases view.symm.trans view'
    exact ⟨slot, below, read⟩
  · rintro ⟨slot, below, read⟩
    exact ⟨v, slot, view, below, read⟩

/-- An event leads on to a next image exactly if it keeps the rules of use. -/
theorem next?_isSome_iff {e : AnchorEvent} : (t.next? e).isSome = true ↔ t.Allows e := by
  cases e with
  -- what needs no view of the stack never fails
  | rewrite memory => exact iff_of_true rfl trivial
  | call c =>
      cases c with
      | record sp fp pc => exact iff_of_true rfl trivial
      | clear => exact iff_of_true rfl trivial
      | capture =>
          rw [next?_call_isSome_iff rfl]
          simp only [AnchorCall.keepsRules_capture_iff, exists_and_right, Allows, IsViewable]
      | ensureWalkable =>
          rw [next?_call_isSome_iff rfl]
          simp only [AnchorCall.keepsRules_ensureWalkable, and_true, Allows, IsViewable]
      | makeWalkable isOwner =>
          rw [next?_call_isSome_iff rfl, Allows, IsViewable, ← exists_and_right]
          refine exists_congr fun v => and_congr_right fun view => ?_
          rw [AnchorCall.keepsRules_makeWalkable_iff, hasReturnWord_iff view]

/-- An event that starts an episode records what it announces. -/
theorem next?_of_announced {e : AnchorEvent} {q : Word × Word} (announced : e.announced? = some q)
    (h : t.next? e = some u) : (u.anchor.lastSp, u.anchor.lastFp) = q := by
  cases e with
  | rewrite memory => cases announced
  | call c =>
      cases c with
      | record sp fp pc =>
          cases announced
          cases h
          rfl
      | clear =>
          cases announced
          cases h
          rfl
      | capture => cases announced
      | ensureWalkable => cases announced
      | makeWalkable isOwner => cases announced

/-- Any other event leaves the anchor as it is, or captures its pc. -/
theorem next?_of_silent {e : AnchorEvent} (silent : e.announced? = none)
    (h : t.next? e = some u) :
    u.anchor = t.anchor ∨
      t.anchor.lastPc = 0 ∧ ∃ p, p ≠ 0 ∧ t.HasReturnWord p ∧
        u.anchor = { t.anchor with lastPc := p } := by
  cases e with
  -- the anchor is not in the memory that is rewritten
  | rewrite memory =>
      cases h
      exact Or.inl rfl
  | call c =>
      obtain ⟨v, w, view, ending | ⟨e, -, same⟩⟩ := next?_call silent h
      · rcases AnchorCall.eq_or_capturesTo_of_silent silent ending with same | captures
        · exact Or.inl same
        · obtain ⟨zero, p, found, word, eq⟩ := captures
          obtain ⟨slot, below, read⟩ := Anchor.returnPcBelow_eq_ok_iff.1 word
          exact Or.inr ⟨zero, p, found, ⟨v, slot, view, below, read⟩, eq⟩
      · exact Or.inl same

/-! ## A whole history -/

/-- What is recorded after some events: what the last of them that starts an episode announced,
or else what the anchor recorded before them. -/
def lastAnnounced (t : ThreadImage) (events : List AnchorEvent) : Word × Word :=
  (events.filterMap AnchorEvent.announced?).getLastD (t.anchor.lastSp, t.anchor.lastFp)

theorem lastAnnounced_cons {e : AnchorEvent} (h : t.next? e = some u)
    (events : List AnchorEvent) : t.lastAnnounced (e :: events) = u.lastAnnounced events := by
  rw [lastAnnounced, lastAnnounced]
  cases announced : e.announced? with
  | some q =>
      rw [List.filterMap_cons_some announced, List.getLastD_cons, next?_of_announced announced h]
  | none =>
      rw [List.filterMap_cons_none announced]
      rcases next?_of_silent announced h with same | ⟨-, p, -, -, captured⟩
      · rw [same]
      · rw [captured]

theorem history_cons {e : AnchorEvent} (h : t.next? e = some u) (events : List AnchorEvent) :
    t.history (e :: events) = t :: u.history events := by
  rw [history, h]

theorem history_cons_of_none {e : AnchorEvent} (h : t.next? e = none)
    (events : List AnchorEvent) : t.history (e :: events) = [t] := by
  rw [history, h]

/-- A history goes on to its end exactly if each of its images allows the event that follows. -/
theorem history_length_iff (t : ThreadImage) (events : List AnchorEvent) :
    (t.history events).length = events.length + 1 ↔
      ∀ p ∈ (t.history events).zip events, p.1.Allows p.2 := by
  induction events generalizing t with
  | nil => simp [history]
  | cons e events ih =>
      cases next : t.next? e with
      -- the history ends here, with events left over
      | none =>
          have broken : ¬ t.Allows e := by simp [← next?_isSome_iff, next]
          simp [history_cons_of_none next, broken]
      | some u =>
          have kept : t.Allows e := by simp [← next?_isSome_iff, next]
          rw [history_cons next, List.length_cons, List.length_cons, Nat.add_right_cancel_iff,
            ih u, List.zip_cons_cons, List.forall_mem_cons]
          exact (and_iff_right kept).symm

theorem history_getElem?_zero (t : ThreadImage) (events : List AnchorEvent) :
    (t.history events)[0]? = some t := by
  cases events with
  | nil => rfl
  | cons e events =>
      cases next : t.next? e with
      | none => rw [history_cons_of_none next, List.getElem?_cons_zero]
      | some u => rw [history_cons next, List.getElem?_cons_zero]

/-- The images from some event on are the history of the image at that event, unless a rule of
use was broken before. -/
theorem drop_history (t : ThreadImage) (start events : List AnchorEvent) :
    (t.history (start ++ events)).drop start.length = [] ∨
      ∃ u : ThreadImage,
        (t.history (start ++ events)).drop start.length = u.history events := by
  induction start generalizing t with
  | nil => exact Or.inr ⟨t, rfl⟩
  | cons e start ih =>
      cases next : t.next? e with
      | none =>
          left
          simp [history_cons_of_none next]
      | some u =>
          rw [List.cons_append, history_cons next, List.length_cons, List.drop_succ_cons]
          exact ih u

/-- At any time the recorded frame is the one that was announced last. -/
theorem history_record (t : ThreadImage) (events : List AnchorEvent) (n : Nat)
    (h : (t.history events)[n]? = some u) :
    (u.anchor.lastSp, u.anchor.lastFp) = t.lastAnnounced (events.take n) := by
  induction events generalizing t n with
  | nil =>
      cases n with
      | zero =>
          cases h
          rfl
      | succ n => cases h
  | cons e events ih =>
      cases n with
      | zero =>
          rw [history_getElem?_zero] at h
          cases h
          rfl
      | succ n =>
          cases next : t.next? e with
          | none =>
              rw [history_cons_of_none next] at h
              cases h
          | some m =>
              rw [history_cons next, List.getElem?_cons_succ] at h
              rw [List.take_succ_cons, lastAnnounced_cons next]
              exact ih m n h

/-- A pc that is known stays until the next episode. -/
theorem history_frozen (t : ThreadImage) (events : List AnchorEvent)
    (silent : ∀ e ∈ events, e.announced? = none) (known : t.anchor.lastPc ≠ 0) :
    ∀ m ∈ t.history events, m.anchor.lastPc = t.anchor.lastPc := by
  induction events generalizing t with
  | nil => simp [history]
  | cons e events ih =>
      rw [List.forall_mem_cons] at silent
      cases next : t.next? e with
      | none => simp [history_cons_of_none next]
      | some u =>
          have same : u.anchor = t.anchor :=
            (next?_of_silent silent.1 next).resolve_right fun unknown => known unknown.1
          rw [history_cons next, List.forall_mem_cons]
          refine ⟨rfl, ?_⟩
          rw [← same] at known ⊢
          exact ih u silent.2 known

/-- In an episode the pc is captured once. -/
theorem history_captured (t : ThreadImage) (events : List AnchorEvent)
    (silent : ∀ e ∈ events, e.announced? = none) :
    ∃ before after, t.history events = before ++ after ∧
      (∀ m ∈ before, m.anchor.lastPc = t.anchor.lastPc) ∧
        (after = [] ∨ t.anchor.lastPc = 0 ∧ ∃ m p, before.getLast? = some m ∧ p ≠ 0 ∧
          m.HasReturnWord p ∧ ∀ n ∈ after, n.anchor.lastPc = p) := by
  -- either the first event captures the pc, or the history after it is split as by the
  -- induction hypothesis and the image before it goes in front
  induction events generalizing t with
  | nil => exact ⟨[t], [], rfl, by simp, Or.inl rfl⟩
  | cons e events ih =>
      rw [List.forall_mem_cons] at silent
      cases next : t.next? e with
      | none => exact ⟨[t], [], history_cons_of_none next events, by simp, Or.inl rfl⟩
      | some u =>
          rw [history_cons next]
          rcases next?_of_silent silent.1 next with same | ⟨zero, p, found, word, captured⟩
          · obtain ⟨before, after, eq, stays, rest⟩ := ih u silent.2
            rw [same] at stays rest
            refine ⟨t :: before, after, by rw [eq, List.cons_append], ?_, ?_⟩
            · rw [List.forall_mem_cons]
              exact ⟨rfl, stays⟩
            · rcases rest with none | ⟨zero, m, p, last, rest⟩
              · exact Or.inl none
              · refine Or.inr ⟨zero, m, p, ?_, rest⟩
                rw [List.getLast?_cons, last, Option.getD_some]
          · -- from here on the pc is frozen
            have frozen := history_frozen u events silent.2 (by rw [captured]; exact found)
            rw [captured] at frozen
            exact ⟨[t], u.history events, rfl, by simp,
              Or.inr ⟨zero, t, p, rfl, found, word, frozen⟩⟩

theorem history_capturedOnce (t : ThreadImage) (start : List AnchorEvent)
    {episode : List AnchorEvent} (silent : ∀ e ∈ episode, e.announced? = none) :
    CapturedOnce ((t.history (start ++ episode)).drop start.length) := by
  rcases t.drop_history start episode with none | ⟨u, eq⟩
  · rw [none]
    exact ⟨[], [], 0, rfl, by simp, Or.inl rfl⟩
  · rw [eq]
    obtain ⟨before, after, split, stays, rest⟩ := u.history_captured episode silent
    exact ⟨before, after, u.anchor.lastPc, split, stays, rest⟩

/-- All the ways to capture a pc that can be found succeed, and they leave the same anchor. -/
theorem perform_of_capturing (hc : c ∈ AnchorCall.capturing) (recorded : t.anchor.lastSp ≠ 0)
    (unknown : t.anchor.lastPc = 0) {p : Word} (found : p ≠ 0) (word : t.HasReturnWord p) :
    (t.perform c).result = .ok (some { t.anchor with lastPc := p }) ∧
      (t.perform c).image.anchor = { t.anchor with lastPc := p } := by
  obtain ⟨v, slot, view, below, read⟩ := word
  have captures : t.anchor.CapturesTo v { t.anchor with lastPc := p } :=
    ⟨unknown, p, found, Anchor.returnPcBelow_eq_ok_iff.2 ⟨slot, below, read⟩, rfl⟩
  exact perform_of_ok view
    (AnchorCall.operation_of_capturesTo hc (decide_eq_true recorded) captures)

/-- The protocol of a thread's anchor, for any calls and any rewriting of the stack in between,
up to the first broken rule of use. The recorded frame is always the one that was announced
last; before that it is what the anchor began with, zeros if it was empty. In the images that
follow one another without a new episode the pc is captured at most once. A call that returns an
error changes nothing, and the ways to capture a pc agree. -/
theorem anchor_protocol (t : ThreadImage) (events : List AnchorEvent) :
    (∀ n u, (t.history events)[n]? = some u →
        (u.anchor.lastSp, u.anchor.lastFp) = t.lastAnnounced (events.take n)) ∧
      (∀ start episode, events = start ++ episode → (∀ e ∈ episode, e.announced? = none) →
        CapturedOnce ((t.history events).drop start.length)) ∧
      (∀ c e, (t.perform c).result = .error (.error e) →
        (t.perform c).image.anchor = t.anchor) ∧
      ∀ p, t.anchor.lastSp ≠ 0 → t.anchor.lastPc = 0 → p ≠ 0 → t.HasReturnWord p →
        ∀ c ∈ AnchorCall.capturing,
          (t.perform c).result = .ok (some { t.anchor with lastPc := p }) ∧
            (t.perform c).image.anchor = { t.anchor with lastPc := p } := by
  refine ⟨?record, ?episode, ?error, ?capture⟩
  case record =>
    intro n u h
    exact history_record t events n h
  case episode =>
    intro start episode eq silent
    subst eq
    exact t.history_capturedOnce start silent
  case error =>
    intro c e h
    exact anchor_of_perform_error h
  case capture =>
    intro p recorded unknown found word c hc
    exact perform_of_capturing hc recorded unknown found word

end ThreadImage

/-! ## A thread that called out -/

namespace CalledOut

/-- Two words of stack, below the stack pointer the address 0x4000 to return to. -/
def memory : Snapshot := ⟨0xc000, ⟨#[0, 0x4000]⟩, rfl⟩

/-- The thread has recorded its last frame, at 0xc010. -/
def image : ThreadImage :=
  { ThreadImage.ofMemory memory with
    bounds := ⟨0xc010, 0xc000, 0⟩
    anchor := Anchor.record 0xc010 0xc080 0 }

/-- The frame was at the lowest word, and what lies below that cannot be read. -/
def lowest : ThreadImage := { image with anchor := Anchor.record 0xc000 0xc080 0 }

/-- In an episode the word that the pc is captured from is rewritten, before the capture and after
it. -/
def episode : List AnchorEvent :=
  [.rewrite ⟨0xc000, ⟨#[0, 0x5000]⟩, rfl⟩, .call .capture, .rewrite memory, .call .ensureWalkable]

/-- The thread returns and calls out again. -/
def run : List AnchorEvent := [.call .clear, .call (.record 0xc010 0xc040 0)] ++ episode

/-- The pc that can be found is captured in any way; one that cannot be found is not. Along the run
no rule of use is broken, the record is the one announced last, and the pc is captured once. -/
theorem protocol_of_run :
    (image.anchor.lastSp ≠ 0 ∧ image.anchor.lastPc = 0 ∧ image.HasReturnWord 0x4000 ∧
      ∀ c ∈ AnchorCall.capturing,
        (image.perform c).result = .ok (some ⟨0xc010, 0x4000, 0xc080⟩) ∧
          (image.perform c).image.anchor = ⟨0xc010, 0x4000, 0xc080⟩) ∧
      ((lowest.perform .capture).result = .error (.error (.unreadable 0xbff8)) ∧
        (lowest.perform .capture).image.anchor = lowest.anchor) ∧
        (∀ p ∈ (image.history run).zip run, p.1.Allows p.2) ∧
          (∀ n u, (image.history run)[n]? = some u →
            (u.anchor.lastSp, u.anchor.lastFp) = image.lastAnnounced (run.take n)) ∧
            ThreadImage.CapturedOnce ((image.history run).drop 2) ∧
              (image.history run).map (·.anchor.lastPc) = [0, 0, 0, 0, 0x5000, 0x5000, 0x5000] := by
  have word : image.HasReturnWord 0x4000 := ⟨_, 0xc008, rfl, by decide, by decide⟩
  have unreadable : (lowest.perform .capture).result = .error (.error (.unreadable 0xbff8)) := rfl
  obtain ⟨record, once, -, captures⟩ := image.anchor_protocol run
  refine ⟨⟨by decide, by decide, word, ?_⟩, ⟨unreadable, ?_⟩, ?_, record, ?_, by decide⟩
  · exact captures 0x4000 (by decide) (by decide) (by decide) word
  · exact (lowest.anchor_protocol []).2.2.1 .capture _ unreadable
  · exact (image.history_length_iff run).1 (by decide)
  · exact once [.call .clear, .call (.record 0xc010 0xc040 0)] episode rfl (by simp [episode,
      AnchorEvent.announced?, AnchorCall.announced?])

end CalledOut

end StackWalk
