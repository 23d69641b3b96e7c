import StackWalk.Proofs.Frame.Verdict
import StackWalk.Walk

/-!
# Steps of a walk

What one step of a walk does, and what many steps do, as functions of the memory. A walk
goes on from a frame if that frame is not the first one of its thread and passes the safety
check; the frame that follows it is then its caller (`following_ending`).

A run that yields something is taken apart by `take_ending_eq_ok`. In the other direction,
`yields_cons` puts a run together from its steps, as long as none of them writes.
-/

set_option autoImplicit false

namespace StackWalk.Walker

open Inspection

variable {w w' : Walker} {ctx : WalkContext} {f : Frame} {v u : StackView}

/-- The walk asks for the caller of `f`, which it yielded as number `depth`. -/
def goesOn (w : Walker) (ctx : WalkContext) (depth : Nat) (f : Frame) (v : StackView) : Bool :=
  !f.isFirst ctx.layout v && (w.trustsFirst && depth == 1 || f.verdict ctx v)

/-- How a walk takes the answer to its question for a caller. An error ends it. -/
def answered : Except Failure Frame × StackView → Except Failure (Option Frame) × StackView
  | (.ok g, v) => (.ok (some g), v)
  | (.error (.error _), v) => (.ok none, v)
  | (.error (.violation e), v) => (.error (.violation e), v)

theorem answered_snd (x : Except Failure Frame × StackView) : (answered x).2 = x.2 := by
  rcases x with ⟨(_ | _) | _, _⟩ <;> rfl

/-- The question for the caller, asked if the check was passed. -/
theorem ask_ending (safe : Bool) (why : String) (depth : Nat) (x : Inspection Frame)
    (v : StackView) :
    (if !safe then (do logTruncated depth why; return none) else do
      match ← x.attempt with
      | .ok caller => return some caller
      | .error e =>
          logTruncated depth e.message
          return none : Inspection (Option Frame)).ending v =
      if safe then answered (x.ending v) else (.ok none, v) := by
  cases safe with
  | false => rfl
  | true =>
      rw [Bool.not_true, if_neg Bool.false_ne_true, if_pos rfl, ending_bind, ending_attempt]
      rcases x.ending v with ⟨(_ | _) | _, _⟩ <;> rfl

theorem following_ending (w : Walker) (ctx : WalkContext) (depth : Nat) (f : Frame)
    (v : StackView) :
    (w.following ctx depth f).ending v =
      if w.goesOn ctx depth f v then answered ((f.caller ctx w.options).ending v)
      else (.ok none, v) := by
  rw [following, goesOn, ending_bind_ok (ending_stack v)]
  cases f.isFirst ctx.layout v with
  | true => rfl
  | false =>
      rw [if_neg Bool.false_ne_true]
      cases w.trustsFirst && depth == 1 with
      | true => exact ask_ending true s!"unsafe sender of {f.text}" depth _ v
      | false =>
          rw [if_neg Bool.false_ne_true, ending_bind_ok (f.callerIsSafe_ending ctx v)]
          exact ask_ending (f.verdict ctx v) _ depth _ v

/-- The walk is followed by another frame exactly if it goes on and the caller is found. -/
theorem following_ending_eq_some_iff {depth : Nat} {g : Frame} :
    (w.following ctx depth f).ending v = (.ok (some g), u) ↔
      w.goesOn ctx depth f v = true ∧ (f.caller ctx w.options).ending v = (.ok g, u) := by
  rw [following_ending]
  cases w.goesOn ctx depth f v with
  | false => simp
  | true =>
      rw [if_pos rfl]
      rcases (f.caller ctx w.options).ending v with ⟨(_ | _) | _, _⟩ <;> simp [answered]

theorem step_ending_of_none (h : w.next = none) : (w.step ctx).ending v = (.ok (none, w), v) := by
  rw [step, h]
  rfl

/-- At the greatest depth the walk is over. -/
theorem step_ending_of_limit (h : w.next = some f) (limit : ctx.config.maxDepth.toNat ≤ w.depth) :
    (w.step ctx).ending v = (.ok (none, { w with next := none }), v) := by
  rw [step, h]
  simp only [limit, if_true]
  rfl

/-- Above it the walk yields its frame, once it knows what follows it. -/
theorem step_ending_of_some (h : w.next = some f) (room : w.depth < ctx.config.maxDepth.toNat) :
    (w.step ctx).ending v =
      match (w.following ctx (w.depth + 1) f).ending v with
      | (.ok next, u) => (.ok (some f, { w with next := next, depth := w.depth + 1 }), u)
      | (.error e, u) => (.error e, u) := by
  rw [step, h]
  simp only [Nat.not_le.2 room, if_false]
  rw [ending_bind]
  rcases (w.following ctx (w.depth + 1) f).ending v with ⟨_ | _, _⟩ <;> rfl

/-- The walker after it yielded its frame. -/
def passed (w : Walker) (next : Option Frame) : Walker :=
  { w with next := next, depth := w.depth + 1 }

@[simp] theorem passed_depth (w : Walker) (next : Option Frame) :
    (w.passed next).depth = w.depth + 1 := rfl

/-- A step yields nothing exactly if no frame is left or the greatest depth is reached. It
changes no word then, and no frame is left after it. -/
theorem step_ending_eq_none_iff :
    (w.step ctx).ending v = (.ok (none, w'), u) ↔
      (w.next = none ∨ ctx.config.maxDepth.toNat ≤ w.depth) ∧
        w' = { w with next := none } ∧ u = v := by
  cases h : w.next with
  | none =>
      have same : w = { w with next := none } := by rw [← h]
      rw [step_ending_of_none h, same]
      simp [eq_comm]
  | some f =>
      by_cases limit : ctx.config.maxDepth.toNat ≤ w.depth
      · rw [step_ending_of_limit h limit]
        simp [limit, eq_comm]
      · rw [step_ending_of_some h (Nat.not_le.1 limit)]
        rcases (w.following ctx (w.depth + 1) f).ending v with ⟨_ | _, _⟩ <;> simp [limit]

/-- It yields a frame exactly if that one is left, the depth allows it, and what follows it is
found out. -/
theorem step_ending_eq_some_iff :
    (w.step ctx).ending v = (.ok (some f, w'), u) ↔
      w.next = some f ∧ w.depth < ctx.config.maxDepth.toNat ∧
        ∃ next, (w.following ctx (w.depth + 1) f).ending v = (.ok next, u) ∧
          w' = w.passed next := by
  constructor
  · intro ends
    cases h : w.next with
    | none =>
        rw [step_ending_of_none h] at ends
        cases ends
    | some g =>
        by_cases room : w.depth < ctx.config.maxDepth.toNat
        · rw [step_ending_of_some h room] at ends
          rcases hf : (w.following ctx (w.depth + 1) g).ending v with ⟨e | next, u'⟩
          · rw [hf] at ends
            cases ends
          · rw [hf] at ends
            cases ends
            exact ⟨rfl, room, next, hf, rfl⟩
        · rw [step_ending_of_limit h (Nat.not_lt.1 room)] at ends
          cases ends
  · rintro ⟨h, room, next, hf, rfl⟩
    rw [step_ending_of_some h room, hf]
    rfl

/-- What a walk comes to if it yields `f` first. -/
def yielding (f : Frame) : Except Failure (List Frame × Walker) × StackView →
    Except Failure (List Frame × Walker) × StackView
  | (.ok (fs, w), v) => (.ok (f :: fs, w), v)
  | (.error e, v) => (.error e, v)

theorem take_succ_ending (ctx : WalkContext) (count : Nat) (w : Walker) (v : StackView) :
    (take ctx (count + 1) w).ending v =
      match (w.step ctx).ending v with
      | (.ok (none, w'), u) => (.ok ([], w'), u)
      | (.ok (some f, w'), u) => yielding f ((take ctx count w').ending u)
      | (.error e, u) => (.error e, u) := by
  rw [take, collect_succ, ending_bind]
  rcases (w.step ctx).ending v with ⟨_ | ⟨_ | f, w'⟩, u⟩
  · rfl
  · rfl
  · show (take ctx count w' >>= _).ending u = yielding f ((take ctx count w').ending u)
    rw [ending_bind]
    rcases (take ctx count w').ending u with ⟨_ | ⟨_, _⟩, _⟩ <;> rfl

/-- A walk that is over yields nothing. -/
theorem take_ending_of_none (h : w.next = none) (count : Nat) :
    (take ctx count w).ending v = (.ok ([], w), v) := by
  cases count with
  | zero => rfl
  | succ count => rw [take_succ_ending, step_ending_of_none h]

theorem take_ending_of_limit (h : w.next = some f) (limit : ctx.config.maxDepth.toNat ≤ w.depth)
    (count : Nat) :
    (take ctx (count + 1) w).ending v = (.ok ([], { w with next := none }), v) := by
  rw [take_succ_ending, step_ending_of_limit h limit]

/-- A walk with room yields its frame and goes on with the one that follows. -/
theorem take_ending_of_some {next : Option Frame} (h : w.next = some f)
    (room : w.depth < ctx.config.maxDepth.toNat)
    (hf : (w.following ctx (w.depth + 1) f).ending v = (.ok next, u)) (count : Nat) :
    (take ctx (count + 1) w).ending v = yielding f ((take ctx count (w.passed next)).ending u) := by
  rw [take_succ_ending, step_ending_of_some h room, hf]
  rfl

/-- A run that yields something yields the frame of the walker first. -/
theorem take_ending_eq_ok {count : Nat} {fs : List Frame} (h : w.next = some f)
    (room : w.depth < ctx.config.maxDepth.toNat)
    (run : (take ctx (count + 1) w).ending v = (.ok (fs, w'), u)) :
    ∃ next u₁ rest, (w.following ctx (w.depth + 1) f).ending v = (.ok next, u₁) ∧
      (take ctx count (w.passed next)).ending u₁ = (.ok (rest, w'), u) ∧ fs = f :: rest := by
  rcases hf : (w.following ctx (w.depth + 1) f).ending v with ⟨e | next, u₁⟩
  · rw [take_succ_ending, step_ending_of_some h room, hf] at run
    cases run
  · rw [take_ending_of_some h room hf] at run
    rcases hr : (take ctx count (w.passed next)).ending u₁ with ⟨e | ⟨rest, w₁⟩, u₂⟩
    · rw [hr] at run
      cases run
    · rw [hr] at run
      cases run
      exact ⟨next, u₁, rest, rfl, hr, rfl⟩

/-! ## Walks that leave the stack as it is -/

/-- Of a list with `f` in front the first frames are `f` and those of the rest. -/
theorem take_min_cons {count depth limit : Nat} (room : depth < limit) (f : Frame)
    (fs : List Frame) :
    (f :: fs).take (min (count + 1) (limit - depth)) =
      f :: fs.take (min count (limit - (depth + 1))) := by
  have : min (count + 1) (limit - depth) = min count (limit - (depth + 1)) + 1 := by omega
  rw [this, List.take_succ_cons]

/-- The walker yields the given frames, as many as are asked for and as the greatest depth
allows, and leaves the stack as it is. -/
def Yields (w : Walker) (ctx : WalkContext) (v : StackView) (fs : List Frame) : Prop :=
  ∀ count, ∃ w', (take ctx count w).ending v =
    (.ok (fs.take (min count (ctx.config.maxDepth.toNat - w.depth)), w'), v)

theorem yields_nil (h : w.next = none) : w.Yields ctx v [] := by
  intro count
  rw [List.take_nil]
  exact ⟨w, take_ending_of_none h count⟩

/-- What a walker yields after `f` is what the walker that has passed `f` yields. -/
theorem yields_cons {next : Option Frame} {fs : List Frame} (h : w.next = some f)
    (hf : (w.following ctx (w.depth + 1) f).ending v = (.ok next, v))
    (rest : (w.passed next).Yields ctx v fs) : w.Yields ctx v (f :: fs) := by
  intro count
  cases count with
  | zero =>
      rw [Nat.zero_min]
      exact ⟨w, rfl⟩
  | succ count =>
      by_cases room : w.depth < ctx.config.maxDepth.toNat
      · obtain ⟨w', run⟩ := rest count
        refine ⟨w', ?_⟩
        rw [take_ending_of_some h room hf, run, take_min_cons room]
        rfl
      · have limit := Nat.not_lt.1 room
        refine ⟨{ w with next := none }, ?_⟩
        rw [take_ending_of_limit h limit, Nat.sub_eq_zero_of_le limit, Nat.min_zero]
        rfl

end StackWalk.Walker
