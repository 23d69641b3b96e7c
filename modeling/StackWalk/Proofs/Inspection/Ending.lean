import StackWalk.Inspection

/-!
# Endings of inspections

What an inspection computes does not depend on the events it records. This file drops
them: the `ending` of an inspection on a memory is its result together with the memory it
leaves. The equations below compute the ending of each operation from those of its parts,
and `ending_bind_eq_ok_iff` takes a successful inspection apart.

Most inspections only read. That property passes from the steps of an inspection to the
whole (`isReadOnly_bind`).
-/

set_option autoImplicit false

namespace StackWalk.Inspection

variable {α β : Type}

/-- The result of an inspection and the memory that it leaves. -/
def ending (x : Inspection α) (v : StackView) : Except Failure α × StackView :=
  ((x.run v).result, (x.run v).stack)

theorem result_of_ending {x : Inspection α} {v w : StackView} {r : Except Failure α}
    (h : x.ending v = (r, w)) : (x.run v).result = r := congrArg Prod.fst h

theorem stack_of_ending {x : Inspection α} {v w : StackView} {r : Except Failure α}
    (h : x.ending v = (r, w)) : (x.run v).stack = w := congrArg Prod.snd h

@[simp] theorem ending_pure (a : α) (v : StackView) :
    (pure a : Inspection α).ending v = (.ok a, v) := rfl

@[simp] theorem ending_fail (e : Failure) (v : StackView) :
    (fail e : Inspection α).ending v = (.error e, v) := rfl

@[simp] theorem ending_stack (v : StackView) : stack.ending v = (.ok v, v) := rfl

@[simp] theorem ending_modifyStack (g : StackView → StackView) (v : StackView) :
    (modifyStack g).ending v = (.ok (), g v) := rfl

@[simp] theorem ending_emit (e : Event) (v : StackView) : (emit e).ending v = (.ok (), v) := rfl

/-- A store always answers. It says whether it was made. -/
theorem ending_write (a x : Word) (v : StackView) :
    (write a x).ending v = (.ok (v.write? a x).isSome, (v.write? a x).getD v) := by
  unfold ending run write
  cases v.write? a x <;> rfl

/-- A step that fails ends the whole; otherwise the rest runs on the memory it leaves. -/
theorem ending_bind (x : Inspection α) (f : α → Inspection β) (v : StackView) :
    (x >>= f).ending v =
      match x.ending v with
      | (.ok a, w) => (f a).ending w
      | (.error e, w) => (.error e, w) := by
  show ((andThen x f v).result, (andThen x f v).stack) = _
  unfold andThen ending run
  rcases x v with ⟨r, w, es⟩
  cases r <;> rfl

theorem ending_bind_ok {x : Inspection α} {f : α → Inspection β} {v w : StackView} {a : α}
    (h : x.ending v = (.ok a, w)) : (x >>= f).ending v = (f a).ending w := by
  rw [ending_bind, h]

/-- An inspection succeeds exactly if its first step does and the rest after it. -/
theorem ending_bind_eq_ok_iff {x : Inspection α} {f : α → Inspection β} {v w : StackView}
    {b : β} :
    (x >>= f).ending v = (.ok b, w) ↔
      ∃ a u, x.ending v = (.ok a, u) ∧ (f a).ending u = (.ok b, w) := by
  rw [ending_bind]
  rcases x.ending v with ⟨e | a, u⟩
  · simp
  · constructor
    · exact fun h => ⟨a, u, rfl, h⟩
    · rintro ⟨a', u', h, h'⟩
      cases h
      exact h'

@[simp] theorem ending_require (c : Bool) (broken : Violation) (v : StackView) :
    (require c broken).ending v = (if c then .ok () else .error (.violation broken), v) := by
  cases c <;> rfl

@[simp] theorem ending_ensure (c : Bool) (otherwise : FrameError) (v : StackView) :
    (ensure c otherwise).ending v = (if c then .ok () else .error (.error otherwise), v) := by
  cases c <;> rfl

@[simp] theorem ending_orError (x : Option α) (e : FrameError) (v : StackView) :
    (orError x e).ending v = (x.elim (.error (.error e)) .ok, v) := by
  cases x <;> rfl

/-- A rule of use that is broken ends the whole. -/
theorem ending_require_bind (c : Bool) (broken : Violation) (x : Unit → Inspection β)
    (v : StackView) :
    (require c broken >>= x).ending v =
      if c then (x ()).ending v else (.error (.violation broken), v) := by
  cases c <;> rfl

/-- So does a value that is not there. -/
theorem ending_orError_bind (y : Option α) (e : FrameError) (f : α → Inspection β)
    (v : StackView) :
    (orError y e >>= f).ending v =
      match y with
      | some a => (f a).ending v
      | none => (.error (.error e), v) := by
  cases y <;> rfl

theorem ending_require_bind_eq_ok_iff {c : Bool} {broken : Violation} {x : Inspection β}
    {v w : StackView} {b : β} :
    (require c broken >>= fun _ => x).ending v = (.ok b, w) ↔
      c = true ∧ x.ending v = (.ok b, w) := by
  rw [ending_require_bind]
  cases c <;> simp

theorem ending_orError_bind_eq_ok_iff {y : Option α} {e : FrameError}
    {f : α → Inspection β} {v w : StackView} {b : β} :
    (orError y e >>= f).ending v = (.ok b, w) ↔
      ∃ a, y = some a ∧ (f a).ending v = (.ok b, w) := by
  rw [ending_orError_bind]
  cases y <;> simp

/-- An answer of a function of the memory is the result, or the failure, of the step. -/
@[simp] theorem ending_liftError (x : Except FrameError α) (v : StackView) :
    (liftM x : Inspection α).ending v = (x.mapError .error, v) := by
  cases x <;> rfl

@[simp] theorem ending_liftViolation (x : Except Violation α) (v : StackView) :
    (liftM x : Inspection α).ending v = (x.mapError .violation, v) := by
  cases x <;> rfl

theorem ending_attempt (x : Inspection α) (v : StackView) :
    x.attempt.ending v =
      match x.ending v with
      | (.ok a, w) => (.ok (.ok a), w)
      | (.error (.error e), w) => (.ok (.error e), w)
      | (.error (.violation e), w) => (.error (.violation e), w) := by
  unfold ending run attempt
  rcases x v with ⟨_ | _, w, es⟩
  · rename_i e
    cases e <;> rfl
  · rfl

/-! ## Inspections that only read -/

/-- The inspection leaves the memory as it is, also if it fails. -/
def IsReadOnly (x : Inspection α) : Prop := ∀ v, (x.ending v).2 = v

theorem isReadOnly_pure (a : α) : IsReadOnly (pure a : Inspection α) := fun _ => rfl

theorem isReadOnly_stack : IsReadOnly stack := fun _ => rfl

theorem isReadOnly_require (c : Bool) (broken : Violation) : IsReadOnly (require c broken) :=
  fun v => congrArg Prod.snd (ending_require c broken v)

theorem isReadOnly_orError (x : Option α) (e : FrameError) : IsReadOnly (orError x e) :=
  fun v => congrArg Prod.snd (ending_orError x e v)

theorem isReadOnly_liftViolation (x : Except Violation α) :
    IsReadOnly (liftM x : Inspection α) :=
  fun v => congrArg Prod.snd (ending_liftViolation x v)

theorem isReadOnly_bind {x : Inspection α} {f : α → Inspection β} (hx : IsReadOnly x)
    (hf : ∀ a, IsReadOnly (f a)) : IsReadOnly (x >>= f) := by
  intro v
  have hv := hx v
  rw [ending_bind]
  rcases h : x.ending v with ⟨e | a, w⟩
  · rw [h] at hv
    exact hv
  · rw [h] at hv
    subst hv
    exact hf a w

end StackWalk.Inspection
