import StackWalk.Inspection

/-!
# Two inspections side by side

Two inspections are related if, run on related memories, they end with related values or with
the same failure, leave related memories and record the same events. The memories and the values
have relations of their own, `S` and `R`. Related inspections are made of related steps
(`related_bind`, `related_stack_bind`), and where the memories are the same, every step that is
the same on both sides relates to itself (`related_self`).
-/

set_option autoImplicit false

namespace StackWalk

/-- Both results are values that `R` relates, or both are the same failure. -/
inductive ResultRel {α β : Type} (R : α → β → Prop) : Except Failure α → Except Failure β → Prop
  | ok {a : α} {b : β} (h : R a b) : ResultRel R (.ok a) (.ok b)
  | error (e : Failure) : ResultRel R (.error e) (.error e)

/-- Results that differ in nothing are the same. -/
theorem ResultRel.eq {α : Type} {r s : Except Failure α} (h : ResultRel Eq r s) : r = s := by
  cases h with
  | ok same => rw [same]
  | error e => rfl

theorem ResultRel.imp {α β : Type} {R Q : α → β → Prop} {r : Except Failure α}
    {s : Except Failure β} (h : ResultRel R r s) (weaker : ∀ a b, R a b → Q a b) :
    ResultRel Q r s := by
  cases h with
  | ok h => exact .ok (weaker _ _ h)
  | error e => exact .error e

/-- The two ends cannot be told apart, except by the values and the memories. -/
structure Outcome.Related {α β : Type} (S : StackView → StackView → Prop) (R : α → β → Prop)
    (o : Outcome α) (p : Outcome β) : Prop where
  result : ResultRel R o.result p.result
  stack : S o.stack p.stack
  events : p.events = o.events

namespace Inspection

variable {α β γ δ : Type} {S : StackView → StackView → Prop} {R : α → β → Prop}
  {Q : γ → δ → Prop}

/-- On memories that `S` relates, both inspections end alike. -/
def Related (S : StackView → StackView → Prop) (R : α → β → Prop) (x : Inspection α)
    (y : Inspection β) : Prop :=
  ∀ ⦃v w : StackView⦄, S v w → (x.run v).Related S R (y.run w)

theorem related_pure {a : α} {b : β} (h : R a b) : Related S R (pure a) (pure b) :=
  fun _ _ s => ⟨.ok h, s, rfl⟩

theorem related_fail (e : Failure) : Related S R (fail e) (fail e) :=
  fun _ _ s => ⟨.error e, s, rfl⟩

theorem related_emit (e : Event) : Related S Eq (emit e) (emit e) :=
  fun _ _ s => ⟨.ok rfl, s, rfl⟩

theorem related_orError {x : Option α} {y : Option β} (h : Option.Rel R x y) (e : FrameError) :
    Related S R (orError x e) (orError y e) := by
  cases h with
  | none => exact related_fail _
  | some h => exact related_pure h

/-- On one and the same memory an inspection has only one end. -/
theorem related_self (x : Inspection α) : Related Eq Eq x x := by
  intro v w same
  cases same
  refine ⟨?_, rfl, rfl⟩
  cases (x.run v).result with
  | ok a => exact .ok rfl
  | error e => exact .error e

theorem run_bind (x : Inspection α) (f : α → Inspection γ) (v : StackView) :
    (x >>= f).run v =
      match x.run v with
      | ⟨.error e, u, es⟩ => ⟨.error e, u, es⟩
      | ⟨.ok a, u, es⟩ =>
          ⟨((f a).run u).result, ((f a).run u).stack, es ++ ((f a).run u).events⟩ := by
  show andThen x f v = _
  unfold andThen run
  rcases x v with ⟨_ | _, _, _⟩ <;> rfl

theorem related_bind {x : Inspection α} {y : Inspection β} {f : α → Inspection γ}
    {g : β → Inspection δ} (first : Related S R x y)
    (rest : ∀ {a b}, R a b → Related S Q (f a) (g b)) : Related S Q (x >>= f) (y >>= g) := by
  intro v w s
  obtain ⟨result, stack, events⟩ := first s
  rw [run_bind, run_bind]
  rcases hv : x.run v with ⟨r, u, es⟩
  rcases hw : y.run w with ⟨r', u', es'⟩
  rw [hv, hw] at result stack events
  cases events
  cases result with
  | error e => exact ⟨.error e, stack, rfl⟩
  | ok h =>
      -- the values are related, and the rest runs from related memories
      obtain ⟨result, stack, events⟩ := rest h stack
      exact ⟨result, stack, congrArg (es ++ ·) events⟩

/-- What is done with the memory itself has to be related on related memories. -/
theorem related_stack_bind {f : StackView → Inspection γ} {g : StackView → Inspection δ}
    (h : ∀ {v w}, S v w → Related S Q (f v) (g w)) : Related S Q (stack >>= f) (stack >>= g) :=
  fun _ _ s => h s s

theorem related_ite {c : Prop} [Decidable c] {x x' : Inspection α} {y y' : Inspection β}
    (h : Related S R x y) (h' : Related S R x' y') :
    Related S R (if c then x else x') (if c then y else y') := by
  split
  · exact h
  · exact h'

theorem related_attempt {x y : Inspection α} (h : Related S Eq x y) :
    Related S Eq x.attempt y.attempt := by
  intro v w s
  obtain ⟨result, stack, events⟩ := h s
  unfold run at result stack events
  unfold run attempt
  rcases hv : x v with ⟨r, u, es⟩
  rcases hw : y w with ⟨r', u', es'⟩
  rw [hv, hw] at result stack events
  cases events
  cases result.eq
  rcases r with (e | e) | a
  · exact ⟨.ok rfl, stack, rfl⟩
  · exact ⟨.error _, stack, rfl⟩
  · exact ⟨.ok rfl, stack, rfl⟩

end Inspection

end StackWalk
