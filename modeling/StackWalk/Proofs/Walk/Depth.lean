import StackWalk.Proofs.Safety.Managed
import StackWalk.Proofs.Walk.Step

/-!
# The depth of a walk

The greatest depth cuts a walk short and does nothing else. A walk that runs out with a greater
one yields as many frames with a smaller one as that allows, and they are the same
(`RunsOut.shallower`). What follows a frame never depends on the greatest depth
(`following_withMaxDepth`), although the walk computes it, and captures anchors meanwhile,
before it looks at its depth.

A walk can be asked for more frames than it has. It then answers with all of them and with
nothing from there on, and the depth it has reached is the number of them (`asked_answers`).
-/

set_option autoImplicit false

namespace StackWalk

open Inspection

/-- The same surroundings with another greatest depth of a walk. -/
def WalkContext.withMaxDepth (ctx : WalkContext) (depth : Word) : WalkContext :=
  { ctx with config := { ctx.config with maxDepth := depth } }

@[simp] theorem WalkContext.withMaxDepth_maxDepth (ctx : WalkContext) (depth : Word) :
    (ctx.withMaxDepth depth).config.maxDepth = depth := rfl

namespace Walker

variable {w w' : Walker} {ctx : WalkContext} {f : Frame} {fs : List Frame} {v u : StackView}
  {d₁ d₂ : Word}

/-- Whether a walk goes on from a frame, and to which one, does not depend on the greatest
depth. -/
theorem following_withMaxDepth (w : Walker) (ctx : WalkContext) (d : Word) (depth : Nat)
    (f : Frame) : w.following (ctx.withMaxDepth d) depth f = w.following ctx depth f := rfl

/-- A step that yields a frame is the same with any greatest depth that allows for it. -/
theorem step_ending_withMaxDepth (room : w.depth < d₁.toNat)
    (first : (w.step (ctx.withMaxDepth d₂)).ending v = (.ok (some f, w'), u)) :
    (w.step (ctx.withMaxDepth d₁)).ending v = (.ok (some f, w'), u) := by
  obtain ⟨found, -, next, follows, passed⟩ := step_ending_eq_some_iff.1 first
  rw [following_withMaxDepth] at follows
  exact step_ending_eq_some_iff.2 ⟨found, room, next, follows, passed⟩

/-- A step without a frame stays one if the greatest depth is lowered. -/
theorem step_ending_of_le (le : d₁ ≤ d₂)
    (idle : (w.step (ctx.withMaxDepth d₂)).ending v = (.ok (none, w'), u)) :
    (w.step (ctx.withMaxDepth d₁)).ending v = (.ok (none, w'), u) := by
  obtain ⟨done | limit, after⟩ := step_ending_eq_none_iff.1 idle
  · exact step_ending_eq_none_iff.2 ⟨Or.inl done, after⟩
  · rw [ctx.withMaxDepth_maxDepth] at limit
    have lower : d₁.toNat ≤ w.depth := Nat.le_trans (UInt64.le_iff_toNat_le.1 le) limit
    exact step_ending_eq_none_iff.2 ⟨Or.inr lower, after⟩

/-! ## Walks that run out -/

/-- The walker yields the frames, with one step each, and then a step without a frame. The
memory is `v` before these steps and `u` after them. -/
inductive RunsOut (ctx : WalkContext) : Walker → StackView → List Frame → StackView → Prop
  | halts {w w' : Walker} {v u : StackView} (idle : (w.step ctx).ending v = (.ok (none, w'), u)) :
      RunsOut ctx w v [] u
  | goesOn {w w₁ : Walker} {v v₁ u : StackView} {f : Frame} {fs : List Frame}
      (first : (w.step ctx).ending v = (.ok (some f, w₁), v₁)) (rest : RunsOut ctx w₁ v₁ fs u) :
      RunsOut ctx w v (f :: fs) u

/-- The walker after it has yielded so many frames and has run out. -/
def exhausted (w : Walker) (count : Nat) : Walker :=
  { w with next := none, depth := w.depth + count }

@[simp] theorem exhausted_depth (w : Walker) (count : Nat) :
    (w.exhausted count).depth = w.depth + count := rfl

theorem exhausted_passed (w : Walker) (next : Option Frame) (count : Nat) :
    (w.passed next).exhausted count = w.exhausted (count + 1) := by
  simp only [exhausted, passed, Nat.add_assoc, Nat.add_comm 1]

/-- A walk that runs out has yielded no more frames than its greatest depth allows. -/
theorem RunsOut.length_le (run : RunsOut ctx w v fs u) :
    fs.length ≤ ctx.config.maxDepth.toNat - w.depth := by
  induction run with
  | halts idle => exact Nat.zero_le _
  | @goesOn w _ _ _ _ _ fs first rest ih =>
      obtain ⟨-, room, next, -, rfl⟩ := step_ending_eq_some_iff.1 first
      rw [passed_depth] at ih
      rw [List.length_cons]
      omega

/-- With a smaller greatest depth the walk runs out as well, after as many of the frames as that
allows. -/
theorem RunsOut.shallower (le : d₁ ≤ d₂) (run : RunsOut (ctx.withMaxDepth d₂) w v fs u) :
    ∃ u₁, RunsOut (ctx.withMaxDepth d₁) w v (fs.take (d₁.toNat - w.depth)) u₁ := by
  induction run with
  | halts idle =>
      rw [List.take_nil]
      exact ⟨_, .halts (step_ending_of_le le idle)⟩
  | @goesOn w w₁ v v₁ u f fs first rest ih =>
      by_cases room : w.depth < d₁.toNat
      · obtain ⟨-, -, next, -, rfl⟩ := step_ending_eq_some_iff.1 first
        obtain ⟨u₁, shorter⟩ := ih
        have one_less : d₁.toNat - w.depth = d₁.toNat - (w.passed next).depth + 1 := by
          rw [passed_depth]
          omega
        rw [one_less, List.take_succ_cons]
        exact ⟨u₁, .goesOn (step_ending_withMaxDepth room first) shorter⟩
      · have limit := Nat.not_lt.1 room
        rw [Nat.sub_eq_zero_of_le limit, List.take_zero]
        exact ⟨v, .halts (step_ending_eq_none_iff.2 ⟨Or.inr limit, rfl, rfl⟩)⟩

/-- A walk that runs out is taken to its end by any count that is greater than the number of its
frames. -/
theorem RunsOut.take_ending (run : RunsOut ctx w v fs u) {count : Nat}
    (enough : fs.length < count) :
    (take ctx count w).ending v = (.ok (fs, w.exhausted fs.length), u) := by
  induction run generalizing count with
  | halts idle =>
      obtain ⟨count, rfl⟩ := Nat.exists_eq_succ_of_ne_zero (Nat.ne_of_gt enough)
      rw [take_succ_ending, idle]
      obtain ⟨-, rfl, -⟩ := step_ending_eq_none_iff.1 idle
      rfl
  | @goesOn w w₁ v v₁ u f fs first rest ih =>
      obtain ⟨count, rfl⟩ := Nat.exists_eq_succ_of_ne_zero (Nat.ne_of_gt (Nat.zero_lt_of_lt enough))
      obtain ⟨-, -, next, -, rfl⟩ := step_ending_eq_some_iff.1 first
      rw [take_succ_ending, first]
      change yielding f ((take ctx count (w.passed next)).ending v₁) = _
      rw [ih (Nat.lt_of_succ_lt_succ enough), exhausted_passed]
      rfl

/-- A walk of which more frames were taken than its greatest depth allows has run out. -/
theorem runsOut_of_take {count : Nat} (enough : ctx.config.maxDepth.toNat - w.depth < count)
    (run : (take ctx count w).ending v = (.ok (fs, w'), u)) : RunsOut ctx w v fs u := by
  induction count generalizing w v fs with
  | zero => exact absurd enough (Nat.not_lt_zero _)
  | succ count ih =>
      rw [take_succ_ending] at run
      rcases first : (w.step ctx).ending v with ⟨e | ⟨_ | f, w₁⟩, v₁⟩
      · rw [first] at run
        cases run
      · rw [first] at run
        cases run
        exact .halts first
      · obtain ⟨-, room, next, -, rfl⟩ := step_ending_eq_some_iff.1 first
        have fewer : ctx.config.maxDepth.toNat - (w.passed next).depth < count := by
          rw [passed_depth]
          omega
        simp only [first] at run
        rcases rest : (take ctx count (w.passed next)).ending v₁ with ⟨e | ⟨gs, w₂⟩, v₂⟩
        · rw [rest] at run
          cases run
        · rw [rest] at run
          cases run
          exact .goesOn first (ih fewer rest)

/-- To take all frames takes a walk that runs out to its end. -/
theorem RunsOut.takeAll_ending (run : RunsOut ctx w v fs u) :
    (w.takeAll ctx).ending v = (.ok (fs, w.exhausted fs.length), u) := by
  have bound : fs.length ≤ ctx.config.maxDepth.toNat := Nat.le_trans run.length_le (Nat.sub_le _ _)
  exact run.take_ending (Nat.lt_succ_of_le bound)

/-- It succeeds with no other walk. -/
theorem takeAll_ending_eq_ok_iff :
    (w.takeAll ctx).ending v = (.ok (fs, w'), u) ↔
      RunsOut ctx w v fs u ∧ w' = w.exhausted fs.length := by
  constructor
  · intro all
    have run : RunsOut ctx w v fs u := runsOut_of_take (Nat.lt_succ_of_le (Nat.sub_le _ _)) all
    cases all.symm.trans run.takeAll_ending
    exact ⟨run, rfl⟩
  · rintro ⟨run, rfl⟩
    exact run.takeAll_ending

/-! ## Walks that are asked for more -/

/-- Ask for a frame so many times, also if there was none before. -/
def asked (ctx : WalkContext) : Nat → Walker → Inspection (List (Option Frame) × Walker)
  | 0, w => return ([], w)
  | count + 1, w => do
      let (answer, w) ← w.step ctx
      let (answers, w) ← asked ctx count w
      return (answer :: answers, w)

/-- To ask is to take a step, and then to ask the walker that it leaves. -/
theorem asked_succ_ending_eq_ok_iff {count : Nat} {answers : List (Option Frame)} :
    (asked ctx (count + 1) w).ending v = (.ok (answers, w'), u) ↔
      ∃ answer w₁ v₁ rest, (w.step ctx).ending v = (.ok (answer, w₁), v₁) ∧
        (asked ctx count w₁).ending v₁ = (.ok (rest, w'), u) ∧ answers = answer :: rest := by
  rw [asked, ending_bind_eq_ok_iff]
  constructor
  · rintro ⟨⟨answer, w₁⟩, v₁, first, ends⟩
    obtain ⟨⟨rest, w₂⟩, u₂, rest_ends, done⟩ := ending_bind_eq_ok_iff.1 ends
    cases done
    exact ⟨answer, w₁, v₁, rest, first, rest_ends, rfl⟩
  · rintro ⟨answer, w₁, v₁, rest, first, rest_ends, rfl⟩
    exact ⟨(answer, w₁), v₁, first, ending_bind_eq_ok_iff.2 ⟨(rest, w'), u, rest_ends, rfl⟩⟩

/-- A walk that is over has nothing to answer, however often it is asked. -/
theorem asked_ending_of_none (finished : w.next = none) (count : Nat) :
    (asked ctx count w).ending v = (.ok (List.replicate count none, w), v) := by
  induction count with
  | zero => rfl
  | succ count ih =>
      exact asked_succ_ending_eq_ok_iff.2 ⟨none, w, v, _, step_ending_of_none finished, ih, rfl⟩

/-- What a walk answers: frames, as many as its depth has grown by, and nothing from the first
question on for which it has none. The walk is over then. -/
theorem asked_answers {count : Nat} {answers : List (Option Frame)}
    (h : (asked ctx count w).ending v = (.ok (answers, w'), u)) :
    ∃ fs : List Frame, fs.length ≤ count ∧
      answers = fs.map some ++ List.replicate (count - fs.length) none ∧
        w'.depth = w.depth + fs.length ∧ (fs.length < count → w'.next = none) := by
  induction count generalizing w v answers with
  | zero =>
      cases h
      exact ⟨[], Nat.le_refl 0, rfl, rfl, fun less => absurd less (Nat.lt_irrefl 0)⟩
  | succ count ih =>
      obtain ⟨answer, w₁, v₁, rest, first, ends, rfl⟩ := asked_succ_ending_eq_ok_iff.1 h
      cases answer with
      | none =>
          obtain ⟨-, rfl, rfl⟩ := step_ending_eq_none_iff.1 first
          rw [asked_ending_of_none rfl] at ends
          cases ends
          exact ⟨[], Nat.zero_le _, rfl, rfl, fun _ => rfl⟩
      | some f =>
          obtain ⟨-, -, next, -, rfl⟩ := step_ending_eq_some_iff.1 first
          obtain ⟨fs, le, rfl, depth, finished⟩ := ih ends
          refine ⟨f :: fs, Nat.succ_le_succ le, by simp, ?_, ?_⟩
          · rw [depth, passed_depth, List.length_cons]
            omega
          · exact fun less => finished (Nat.lt_of_succ_lt_succ less)

/-- The greatest depth of a walk only cuts it short. If a walk runs out, then from the same memory
it runs out with any smaller greatest depth too, and it yields the first of the frames, as many
as that depth allows. Asked any number of times, a walk answers with its frames, and its depth is
the number of them; from its first answer without a frame on, all answers are without one, and
no word of the stack is changed. -/
theorem walk_truncates (ctx : WalkContext) (f : Frame) (options : WalkOptions) (trusts : Bool)
    (v : StackView) :
    (∀ (d₁ d₂ : Word) (fs : List Frame) (w₂ : Walker) (u₂ : StackView), d₁ ≤ d₂ →
      ((startAt f options trusts).takeAll (ctx.withMaxDepth d₂)).ending v = (.ok (fs, w₂), u₂) →
        ∃ w₁ u₁, ((startAt f options trusts).takeAll (ctx.withMaxDepth d₁)).ending v =
            (.ok (fs.take (min d₁.toNat fs.length), w₁), u₁) ∧
          w₁.depth = min d₁.toNat fs.length ∧
            ∀ more, (asked (ctx.withMaxDepth d₁) more w₁).ending u₁ =
              (.ok (List.replicate more none, w₁), u₁)) ∧
      ∀ (count : Nat) (answers : List (Option Frame)) (w : Walker) (u : StackView),
        (asked ctx count (startAt f options trusts)).ending v = (.ok (answers, w), u) →
          ∃ fs : List Frame, fs.length ≤ count ∧
            answers = fs.map some ++ List.replicate (count - fs.length) none ∧
              w.depth = fs.length ∧
                (fs.length < count → ∀ more,
                  (asked ctx more w).ending u = (.ok (List.replicate more none, w), u)) := by
  constructor
  · intro d₁ d₂ fs w₂ u₂ le run
    obtain ⟨out, -⟩ := takeAll_ending_eq_ok_iff.1 run
    obtain ⟨u₁, shorter⟩ := out.shallower le
    change RunsOut _ _ v (fs.take d₁.toNat) u₁ at shorter
    rw [List.take_eq_take_min] at shorter
    refine ⟨_, u₁, takeAll_ending_eq_ok_iff.2 ⟨shorter, rfl⟩, ?_, asked_ending_of_none rfl⟩
    rw [exhausted_depth, List.length_take, Nat.min_assoc, Nat.min_self]
    exact Nat.zero_add _
  · intro count answers w u h
    obtain ⟨fs, le, eq, depth, finished⟩ := asked_answers h
    refine ⟨fs, le, eq, ?_, fun less more => asked_ending_of_none (finished less) more⟩
    rw [depth]
    exact Nat.zero_add _

end Walker

namespace ThreeFrames

/-- The walk over the three frames. -/
def walk : Walker := .startAt youngest ⟨false⟩ false

/-- With a greatest depth of two it yields the first two of them. Where the greatest depth is one,
its second answer is that there is no frame, and so are all further ones. -/
theorem walk_of_two :
    (walk.takeAll (context.withMaxDepth 5)).ending view =
        (.ok ([youngest, middle, oldest], walk.exhausted 3), view) ∧
      (∃ w u, (walk.takeAll (context.withMaxDepth 2)).ending view =
          (.ok ([youngest, middle], w), u) ∧ w.depth = 2 ∧
            ∀ more, (Walker.asked (context.withMaxDepth 2) more w).ending u =
              (.ok (List.replicate more none, w), u)) ∧
        (Walker.asked (context.withMaxDepth 1) 2 walk).ending view =
            (.ok ([some youngest, none], walk.exhausted 1), view) ∧
          ∀ more, (Walker.asked (context.withMaxDepth 1) more (walk.exhausted 1)).ending view =
            (.ok (List.replicate more none, walk.exhausted 1), view) := by
  have whole : (walk.takeAll (context.withMaxDepth 5)).ending view =
      (.ok ([youngest, middle, oldest], walk.exhausted 3), view) := rfl
  have asked : (Walker.asked (context.withMaxDepth 1) 2 walk).ending view =
      (.ok ([some youngest, none], walk.exhausted 1), view) := rfl
  have truncated :=
    (Walker.walk_truncates context youngest ⟨false⟩ false view).1 2 5 _ _ _ (by decide) whole
  obtain ⟨fs, -, -, depth, finished⟩ :=
    (Walker.walk_truncates (context.withMaxDepth 1) youngest ⟨false⟩ false view).2 _ _ _ _ asked
  refine ⟨whole, truncated, asked, finished ?_⟩
  rw [← depth]
  decide

end ThreeFrames

end StackWalk
