import StackWalk.Proofs.Frame.Confined

/-!
# Sessions on a stack

A client works on a stack by one operation after another: it builds frames, checks them,
computes their callers, patches them, lists their words and takes steps of walks. It chooses
each operation by what the earlier ones answered, so it may use the frames and the words that
they handed out.

No such session depends on the memory around the accessible words. On two stacks that agree the
client is told the same, the stacks agree still, and in neither has a word changed that is not
accessible (`session_agrees`). One operation is confined (`isConfined_perform`), and the session
is an induction on the number of operations, from any replies that came before.
-/

set_option autoImplicit false

namespace StackWalk

open Inspection

/-! ## Steps of a walk -/

namespace Walker

variable (w : Walker) (ctx : WalkContext)

theorem isConfined_following (depth : Nat) (f : Frame) : IsConfined (w.following ctx depth f) := by
  apply isConfined_stack_bind
  · intro u v h
    rw [h.isFirst_eq]
  · intro v
    split
    · exact isConfined_pure _
    -- what follows is the same for a frame that is safe and one that is trusted
    · refine isConfined_ite (isConfined_bind (isConfined_pure _) ?asks)
        (isConfined_bind (f.isConfined_callerIsSafe ctx) ?asks)
      intro safe
      cases safe with
      | false => exact isConfined_bind (isConfined_log _ _) fun _ => isConfined_pure _
      | true =>
          apply isConfined_bind (isConfined_attempt (f.isConfined_caller ctx w.options))
          intro answer
          cases answer with
          | ok caller => exact isConfined_pure _
          | error e => exact isConfined_bind (isConfined_log _ _) fun _ => isConfined_pure _

theorem isConfined_step : IsConfined (w.step ctx) := by
  rw [step]
  split
  · exact isConfined_pure _
  · split
    · exact isConfined_bind (isConfined_log _ _) fun _ => isConfined_pure _
    · exact isConfined_bind (isConfined_following w ctx _ _) fun _ => isConfined_pure _

end Walker

/-! ## Operations -/

/-- What a client can do on a stack. -/
inductive StackOperation where
  /-- Build the frame with the given registers. -/
  | build (sp unextendedSp fp pc : Word)
  /-- Test whether the frame looks like one of the interpreter. -/
  | isPlausible (f : Frame)
  /-- Check whether the caller of the frame can be computed safely. -/
  | isSafe (f : Frame)
  | caller (f : Frame) (options : WalkOptions)
  /-- Test whether the frame is the oldest managed one. -/
  | isFirst (f : Frame)
  | patch (f : Frame) (pc : Word)
  | describe (f : Frame) (number : Nat)
  | rawSlots (f : Frame)
  /-- Take one step of a walk. -/
  | step (w : Walker)

/-- What an operation answers. -/
inductive StackAnswer where
  | frame (f : Frame)
  | decision (b : Bool)
  | slots (ds : List SlotDescription)
  | yielded (f : Option Frame) (w : Walker)

/-- Perform an operation. -/
def StackOperation.perform (ctx : WalkContext) : StackOperation → Inspection StackAnswer
  | build sp unextendedSp fp pc => return .frame (← ctx.frameWith sp unextendedSp fp pc)
  | isPlausible f => return .decision (f.isPlausible ctx (← stack))
  | isSafe f => return .decision (← f.callerIsSafe ctx)
  | caller f options => return .frame (← f.caller ctx options)
  | isFirst f => return .decision (f.isFirst ctx.layout (← stack))
  | patch f pc => return .frame (← f.patch ctx pc)
  | describe f number => return .slots (f.describe ctx (← stack) number)
  | rawSlots f => return .slots (f.rawSlots (← stack))
  | step w => do
      let (f, w) ← w.step ctx
      return .yielded f w

theorem isConfined_perform (ctx : WalkContext) (op : StackOperation) :
    IsConfined (op.perform ctx) := by
  cases op with
  | build sp unextendedSp fp pc =>
      exact isConfined_bind (isConfined_frameWith ctx _ _ _ _) fun _ => isConfined_pure _
  | isPlausible f =>
      apply isConfined_stack_bind
      · intro v w h
        rw [h.isPlausible_eq]
      · exact fun v => isConfined_pure _
  | isSafe f => exact isConfined_bind (f.isConfined_callerIsSafe ctx) fun _ => isConfined_pure _
  | caller f options =>
      exact isConfined_bind (f.isConfined_caller ctx options) fun _ => isConfined_pure _
  | isFirst f =>
      apply isConfined_stack_bind
      · intro v w h
        rw [h.isFirst_eq]
      · exact fun v => isConfined_pure _
  | patch f pc => exact isConfined_bind (f.isConfined_patch ctx pc) fun _ => isConfined_pure _
  | describe f number =>
      apply isConfined_stack_bind
      · intro v w h
        rw [h.describe_eq]
      · exact fun v => isConfined_pure _
  | rawSlots f =>
      apply isConfined_stack_bind
      · intro v w h
        rw [h.rawSlots_eq]
      · exact fun v => isConfined_pure _
  | step w => exact isConfined_bind (w.isConfined_step ctx) fun _ => isConfined_pure _

/-! ## Sessions -/

/-- What a client is told of an operation: how it ended, and its events. -/
abbrev Reply : Type := Except Failure StackAnswer × List Event

/-- A client chooses its next operation by the replies so far, of which the latest is the
first. -/
abbrev Client : Type := List Reply → StackOperation

/-- The replies and the stack after `count` more operations. A failed operation does not end the
session, and what it has stored stays. -/
def session (ctx : WalkContext) (client : Client) :
    Nat → List Reply → StackView → List Reply × StackView
  | 0, replies, v => (replies, v)
  | count + 1, replies, v =>
      let o := ((client replies).perform ctx).run v
      session ctx client count ((o.result, o.events) :: replies) o.stack

variable {v w : StackView}

theorem session_replies_and_stack (ctx : WalkContext) (client : Client) (count : Nat)
    (replies : List Reply) (h : v.AgreesWith w) :
    (session ctx client count replies w).1 = (session ctx client count replies v).1 ∧
      (session ctx client count replies v).2.AgreesWith (session ctx client count replies w).2 := by
  induction count generalizing replies v w with
  | zero => exact ⟨rfl, h⟩
  | succ count ih =>
      obtain ⟨result, agree, events⟩ := (isConfined_perform ctx (client replies)).blind h
      rw [session, session]
      -- the client is told the same, and so chooses the same operations from here on
      simp only [result.eq, events]
      exact ih _ agree

theorem session_keepsOutside (ctx : WalkContext) (client : Client) (count : Nat)
    (replies : List Reply) (v : StackView) :
    v.KeepsOutside (session ctx client count replies v).2 := by
  induction count generalizing replies v with
  | zero => exact .refl v
  | succ count ih =>
      rw [session]
      exact ((isConfined_perform ctx (client replies)).keepsOutside v).trans (ih _ _)

/-- On two stacks that differ only in words that are not accessible, a client is told the same by
any number of operations. The accessible words stay the same on both, and on neither is another
word changed. -/
theorem session_agrees (ctx : WalkContext) (client : Client) (count : Nat) (h : v.AgreesWith w) :
    (session ctx client count [] w).1 = (session ctx client count [] v).1 ∧
      (session ctx client count [] v).2.AgreesWith (session ctx client count [] w).2 ∧
        v.KeepsOutside (session ctx client count [] v).2 ∧
          w.KeepsOutside (session ctx client count [] w).2 := by
  obtain ⟨replies, agree⟩ := session_replies_and_stack ctx client count [] h
  exact ⟨replies, agree, session_keepsOutside ctx client count [] v,
    session_keepsOutside ctx client count [] w⟩

namespace WordsBeside

/-- The stack is the words from `0x30008` up to `0x30028`. The memory has one more word on
either side. -/
def view (below above : Word) : StackView where
  memory :=
    { low := 0x30000
      low_aligned := rfl
      block := ⟨#[below, 0x50, 0, 0x30028, 0x50, above]⟩ }
  bounds := ⟨0x30028, 0x30008, 0⟩
  fits := of_decide_eq_true rfl

def context : WalkContext where
  code := fun _ => none
  metadata := .unknown
  continuations := none
  config := .standard
  isOwner := false

/-- Build a frame, find its caller, list the words around that and redirect the first frame. The
frame pointer of the caller is the address of the word above the stack. -/
def client : Client
  | [] => .build 0x30010 0x30010 0x30018 0x50
  | [(.ok (.frame f), _)] => .caller f ⟨false⟩
  | [(.ok (.frame g), _), _] => .rawSlots g
  | [_, _, (.ok (.frame f), _)] => .patch f 0x60
  | _ => .build 0 0 0 0

theorem view_agreesWith (a b c d : Word) : (view a b).AgreesWith (view c d) := by
  refine ⟨⟨rfl, rfl, rfl⟩, ?_⟩
  intro address inside
  obtain ⟨aligned, above, below⟩ := StackView.contains_iff.1 inside
  have above : 0x30008 ≤ address.toNat := above
  have below : address.toNat + 8 ≤ 0x30028 := below
  have cases : address.toNat = (0x30008 : Word).toNat ∨ address.toNat = (0x30010 : Word).toNat ∨
      address.toNat = (0x30018 : Word).toNat ∨ address.toNat = (0x30020 : Word).toNat := by
    show address.toNat = 0x30008 ∨ address.toNat = 0x30010 ∨ address.toNat = 0x30018 ∨
      address.toNat = 0x30020
    omega
  rcases cases with h | h | h | h <;>
    · rw [UInt64.toNat_inj.1 h]
      rfl

/-- The words beside the stack differ, and the client is told the same. -/
theorem session_agrees_beside :
    (view 1 2).AgreesWith (view 3 4) ∧
      (view 1 2).memory.get? 0x30000 = .ok (some 1) ∧ (view 3 4).memory.get? 0x30000 = .ok (some 3) ∧
        (session context client 4 [] (view 3 4)).1 = (session context client 4 [] (view 1 2)).1 ∧
          (session context client 4 [] (view 1 2)).2.AgreesWith
              (session context client 4 [] (view 3 4)).2 ∧
            (view 1 2).KeepsOutside (session context client 4 [] (view 1 2)).2 ∧
              (view 3 4).KeepsOutside (session context client 4 [] (view 3 4)).2 :=
  ⟨view_agreesWith 1 2 3 4, rfl, rfl, session_agrees context client 4 (view_agreesWith 1 2 3 4)⟩

end WordsBeside

end StackWalk
