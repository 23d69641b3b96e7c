import StackWalk.Failure
import StackWalk.Stack.View

/-!
# Inspections of a stack

An inspection is a computation over one thread's stack memory. It ends with a value or a
failure, and in both cases with the memory as it left it and with the list of events on
the way: the look-ups of code it made and the messages it logged. The events only
record; no inspection can read them.
-/

set_option autoImplicit false

namespace StackWalk

/-- Weight of a logged message. -/
inductive LogLevel where
  | trace
  | debug
  deriving DecidableEq, Repr

/-- What an inspection leaves behind besides its result. -/
inductive Event where
  /-- The code of `pc` was looked up. -/
  | lookup (pc : Word)
  /-- A message was logged. -/
  | message (level : LogLevel) (text : String)
  deriving DecidableEq, Repr

/-- The end of an inspection. -/
structure Outcome (α : Type) where
  result : Except Failure α
  /-- Stack memory at the end, also after a failure. -/
  stack : StackView
  /-- Events in the order in which they happened. -/
  events : List Event

/-- A computation over stack memory that can fail and logs its events. -/
def Inspection (α : Type) : Type := StackView → Outcome α

namespace Inspection

variable {α β : Type}

/-- Run an inspection on the given memory. -/
def run (x : Inspection α) (v : StackView) : Outcome α := x v

/-- Run `f` after `x`; a failure of `x` is the failure of both. -/
def andThen (x : Inspection α) (f : α → Inspection β) : Inspection β := fun v =>
  let first := x v
  match first.result with
  | .error e => ⟨.error e, first.stack, first.events⟩
  | .ok a =>
      let second := f a first.stack
      ⟨second.result, second.stack, first.events ++ second.events⟩

instance : Monad Inspection where
  pure a := fun v => ⟨.ok a, v, []⟩
  bind := andThen

/-- End with a failure. -/
def fail (e : Failure) : Inspection α := fun v => ⟨.error e, v, []⟩

instance : MonadLift (Except FrameError) Inspection where
  monadLift
    | .ok a => pure a
    | .error e => fail (.error e)

instance : MonadLift (Except Violation) Inspection where
  monadLift
    | .ok a => pure a
    | .error e => fail (.violation e)

/-- The memory as it is now. -/
def stack : Inspection StackView := fun v => ⟨.ok v, v, []⟩

/-- Change the memory. -/
def modifyStack (f : StackView → StackView) : Inspection Unit := fun v => ⟨.ok (), f v, []⟩

/-- Record an event. -/
def emit (e : Event) : Inspection Unit := fun v => ⟨.ok (), v, [e]⟩

/-- Log a message. -/
def log (level : LogLevel) (text : String) : Inspection Unit := emit (.message level text)

/-- The condition has to hold; otherwise a rule of use is broken. -/
def require (c : Bool) (broken : Violation) : Inspection Unit :=
  if c then pure () else fail (.violation broken)

/-- The condition has to hold; otherwise the given error is the answer. -/
def ensure (c : Bool) (otherwise : FrameError) : Inspection Unit :=
  if c then pure () else fail (.error otherwise)

/-- The value, or the given error as the answer if there is none. -/
def orError (x : Option α) (e : FrameError) : Inspection α :=
  match x with
  | some a => pure a
  | none => fail (.error e)

/-- Store a word. The answer says whether the address is accessible; if it is not,
nothing changes. -/
def write (a value : Word) : Inspection Bool := fun v =>
  match v.write? a value with
  | some w => ⟨.ok true, w, []⟩
  | none => ⟨.ok false, v, []⟩

/-- Turn an error into a value, with the memory and the events left as they are. A
violation stays a failure. -/
def attempt (x : Inspection α) : Inspection (Except FrameError α) := fun v =>
  let o := x v
  match o.result with
  | .ok a => ⟨.ok (.ok a), o.stack, o.events⟩
  | .error (.error e) => ⟨.ok (.error e), o.stack, o.events⟩
  | .error (.violation e) => ⟨.error (.violation e), o.stack, o.events⟩

/-- The loop of `collect`: `values` and `events` are those so far, the latest first. -/
def collectLoop {σ : Type} (next : σ → Inspection (Option α × σ)) :
    Nat → σ → StackView → List α → List Event → Outcome (List α × σ)
  | 0, s, v, values, events => ⟨.ok (values.reverse, s), v, events.reverse⟩
  | count + 1, s, v, values, events =>
      let o := next s v
      let events := o.events.reverseAux events
      match o.result with
      | .error e => ⟨.error e, o.stack, events.reverse⟩
      | .ok (none, s) => ⟨.ok (values.reverse, s), o.stack, events.reverse⟩
      | .ok (some a, s) => collectLoop next count s o.stack (a :: values) events

/-- Take at most `count` steps from the state `s` and collect their values, until a step
has none. The result holds the values and the last state. It satisfies the equations
`collect_zero` and `collect_succ`; as a loop it can also take very many steps. -/
def collect {σ : Type} (next : σ → Inspection (Option α × σ)) (count : Nat) (s : σ) :
    Inspection (List α × σ) := fun v => collectLoop next count s v [] []

instance : LawfulMonad Inspection := LawfulMonad.mk' Inspection
  (by
    intro α x
    funext v
    show andThen x (fun a => pure (id a)) v = x v
    simp only [andThen, pure]
    rcases hx : x v with ⟨r, s, es⟩
    cases r <;> simp)
  (by
    intro α β a f
    funext v
    show andThen (pure a) f v = f a v
    simp [andThen, pure])
  (by
    intro α β γ x f g
    funext v
    show andThen (andThen x f) g v = andThen x (fun a => andThen (f a) g) v
    simp only [andThen]
    cases (x v).result with
    | error e => rfl
    | ok a =>
        cases h : (f a (x v).stack).result with
        | error e => simp [h]
        | ok b => simp [h, List.append_assoc])

section Collect

variable {σ : Type} (next : σ → Inspection (Option α × σ))

/-- What the loop has collected before it goes on stands in front of the rest. -/
theorem collectLoop_eq (count : Nat) (s : σ) (v : StackView) (values : List α)
    (events : List Event) :
    collectLoop next count s v values events =
      let o := collectLoop next count s v [] []
      ⟨o.result.map fun (rest, s) => (values.reverse ++ rest, s), o.stack,
        events.reverse ++ o.events⟩ := by
  induction count generalizing s v values events with
  | zero => simp [collectLoop, Except.map]
  | succ count ih =>
      unfold collectLoop
      rcases (next s v) with ⟨_ | ⟨_ | a, s'⟩, w, es⟩
      · simp [Except.map, List.reverseAux_eq]
      · simp [Except.map, List.reverseAux_eq]
      · simp only [List.reverseAux_eq, List.append_nil]
        rw [ih s' w (a :: values) (es.reverse ++ events), ih s' w [a] es.reverse]
        rcases collectLoop next count s' w [] [] with ⟨_ | _, _, _⟩ <;> simp [Except.map]

theorem collect_zero (s : σ) : collect next 0 s = (pure ([], s) : Inspection (List α × σ)) :=
  rfl

/-- Collecting takes one step and, if it had a value, collects from there. -/
theorem collect_succ (count : Nat) (s : σ) :
    collect next (count + 1) s = (do
      match ← next s with
      | (none, s) => return ([], s)
      | (some a, s) =>
          let (rest, s) ← collect next count s
          return (a :: rest, s)) := by
  funext v
  show collectLoop next (count + 1) s v [] [] = andThen (next s) _ v
  unfold collectLoop andThen
  rcases (next s v) with ⟨_ | ⟨_ | a, s'⟩, w, es⟩
  · simp [List.reverseAux_eq]
  · simp [List.reverseAux_eq, pure]
  · simp only [List.reverseAux_eq, List.append_nil]
    rw [collectLoop_eq]
    show _ = Outcome.mk (andThen (collect next count s') _ w).result
      (andThen (collect next count s') _ w).stack
      (es ++ (andThen (collect next count s') _ w).events)
    simp only [andThen, collect]
    rcases collectLoop next count s' w [] [] with ⟨_ | _, _, _⟩ <;> simp [Except.map, pure]

end Collect

end Inspection

end StackWalk
