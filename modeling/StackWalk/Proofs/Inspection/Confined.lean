import StackWalk.Proofs.Inspection.Related
import StackWalk.Proofs.Stack.Agreement

/-!
# Confined inspections

An inspection is confined if it stays within the accessible words: run on two stacks that
agree, it gives the same result, records the same events and leaves stacks that agree, and it
never changes a word that is not accessible.

The property passes from the steps of an inspection to the whole (`isConfined_bind`). The one
step that hands out the memory itself is `stack`; what is done with it has to be the same on
stacks that agree (`isConfined_stack_bind`).
-/

set_option autoImplicit false

namespace StackWalk.Inspection

variable {α β : Type}

/-- The inspection neither reads nor changes a word that is not accessible. -/
structure IsConfined (x : Inspection α) : Prop where
  blind : Related StackView.AgreesWith Eq x x
  keepsOutside : ∀ v : StackView, v.KeepsOutside (x.run v).stack

theorem isConfined_pure (a : α) : IsConfined (pure a : Inspection α) :=
  ⟨related_pure rfl, fun v => .refl v⟩

theorem isConfined_fail (e : Failure) : IsConfined (fail e : Inspection α) :=
  ⟨related_fail e, fun v => .refl v⟩

theorem isConfined_emit (e : Event) : IsConfined (emit e) :=
  ⟨related_emit e, fun v => .refl v⟩

theorem isConfined_log (level : LogLevel) (text : String) : IsConfined (log level text) :=
  isConfined_emit _

theorem isConfined_require (c : Bool) (broken : Violation) : IsConfined (require c broken) := by
  cases c with
  | false => exact isConfined_fail _
  | true => exact isConfined_pure _

theorem isConfined_ensure (c : Bool) (otherwise : FrameError) :
    IsConfined (ensure c otherwise) := by
  cases c with
  | false => exact isConfined_fail _
  | true => exact isConfined_pure _

theorem isConfined_orError (x : Option α) (e : FrameError) : IsConfined (orError x e) := by
  cases x with
  | none => exact isConfined_fail _
  | some a => exact isConfined_pure _

theorem isConfined_liftError (x : Except FrameError α) : IsConfined (liftM x : Inspection α) := by
  cases x with
  | error e => exact isConfined_fail _
  | ok a => exact isConfined_pure _

theorem isConfined_liftViolation (x : Except Violation α) :
    IsConfined (liftM x : Inspection α) := by
  cases x with
  | error e => exact isConfined_fail _
  | ok a => exact isConfined_pure _

theorem isConfined_write (a x : Word) : IsConfined (write a x) := by
  constructor
  · intro v w h
    unfold run write
    rcases h.write? a x with ⟨hv, hw⟩ | ⟨v', w', hv, hw, agree⟩
    · rw [hv, hw]
      exact ⟨.ok rfl, h, rfl⟩
    · rw [hv, hw]
      exact ⟨.ok rfl, agree, rfl⟩
  · intro v
    unfold run write
    cases hw : v.write? a x with
    | none => exact .refl v
    | some w => exact StackView.keepsOutside_of_write? hw

theorem isConfined_store (site : AnchorSite) (a : Anchor) : IsConfined (site.store a) :=
  ⟨fun _ _ h => ⟨.ok rfl, h.put site a, rfl⟩, fun v => StackView.keepsOutside_put site a v⟩

theorem isConfined_bind {x : Inspection α} {f : α → Inspection β} (hx : IsConfined x)
    (hf : ∀ a, IsConfined (f a)) : IsConfined (x >>= f) := by
  constructor
  · apply related_bind hx.blind
    rintro a b rfl
    exact (hf a).blind
  · intro v
    have first := hx.keepsOutside v
    rw [run_bind]
    rcases hv : x.run v with ⟨r, u, es⟩
    rw [hv] at first
    -- what a failed inspection has stored stays
    cases r with
    | error e => exact first
    | ok a => exact first.trans ((hf a).keepsOutside u)

theorem isConfined_ite {c : Prop} [Decidable c] {x y : Inspection α} (hx : IsConfined x)
    (hy : IsConfined y) : IsConfined (if c then x else y) := by
  split
  · exact hx
  · exact hy

/-- An inspection may look at the whole stack if it does the same thing on stacks that agree. -/
theorem isConfined_stack_bind {f : StackView → Inspection β}
    (seen : ∀ {v w : StackView}, v.AgreesWith w → f w = f v) (hf : ∀ v, IsConfined (f v)) :
    IsConfined (stack >>= f) := by
  constructor
  · apply related_stack_bind
    intro v w h
    rw [seen h]
    exact (hf v).blind
  · intro v
    exact (hf v).keepsOutside v

theorem isConfined_attempt {x : Inspection α} (hx : IsConfined x) : IsConfined x.attempt := by
  constructor
  · exact related_attempt hx.blind
  · intro v
    have first := hx.keepsOutside v
    unfold run at first
    unfold run attempt
    rcases hv : x v with ⟨(e | e) | a, u, es⟩ <;>
      · rw [hv] at first
        exact first

end StackWalk.Inspection
