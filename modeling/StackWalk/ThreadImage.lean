import StackWalk.Anchor
import StackWalk.Context

/-!
# Images of a thread

A thread image is one thread's stack memory together with all that is consulted to
interpret it. An inspection of the image runs on a view of its memory. When it ends, the
memory that it leaves becomes that of the image, whether it succeeded or failed, the
look-ups of code that it made are counted, and its messages are handed out.
-/

set_option autoImplicit false

namespace StackWalk

/-- One thread's stack and its surroundings. -/
structure ThreadImage where
  memory : Snapshot
  bounds : StackBounds
  code : CodeMap
  metadata : MetadataTable
  /-- Metadata are consulted; otherwise no word counts as metadata. -/
  consultsMetadata : Bool
  continuations : Option ContinuationList
  config : WalkConfig
  /-- The anchor that the thread keeps outside its stack. -/
  anchor : Anchor
  /-- The thread that inspects the image is the one that owns the stack. -/
  isOwner : Bool

/-- What an inspection of an image yields. -/
structure Report (α : Type) where
  result : Except Failure α
  /-- Logged messages, in order. -/
  log : List (LogLevel × String)
  /-- The image afterwards. -/
  image : ThreadImage

namespace ThreadImage

/-- An image of a stack without any surroundings, and without bounds. -/
def ofMemory (memory : Snapshot) : ThreadImage where
  memory := memory
  bounds := ⟨0, 0, 0⟩
  code := ⟨.empty, []⟩
  metadata := .empty
  consultsMetadata := true
  continuations := none
  config := .standard
  anchor := .empty
  isOwner := true

/-- The surroundings of the stack. -/
def context (t : ThreadImage) : WalkContext where
  code := t.code.classify
  metadata := if t.consultsMetadata then t.metadata.oracle else .unknown
  continuations := t.continuations
  config := t.config
  isOwner := t.isOwner

/-- The program counters that were looked up. -/
def lookups (events : List Event) : List Word :=
  events.filterMap fun
    | .lookup pc => some pc
    | .message _ _ => none

/-- The messages that were logged. -/
def messages (events : List Event) : List (LogLevel × String) :=
  events.filterMap fun
    | .message level text => some (level, text)
    | .lookup _ => none

/-- Run an inspection on the image. It cannot start on a memory that reaches beyond the
address space. -/
def inspect {α : Type} (t : ThreadImage) (x : WalkContext → Inspection α) : Report α :=
  match StackView.ofSnapshot t.memory t.bounds with
  | .error e => ⟨.error (.violation e), [], t⟩
  | .ok v =>
      let o := (x t.context).run v
      ⟨o.result, messages o.events,
        { t with memory := o.stack.memory, code := t.code.countLookups (lookups o.events) }⟩

/-- Put `a` in the anchor that the thread keeps outside its stack. This works whatever the
memory, for it is not looked at. -/
def setAnchor (t : ThreadImage) (a : Anchor) : Report (Option Anchor) :=
  ⟨.ok (some a), [], { t with anchor := a }⟩

/-- Work on the anchor in stack memory at the given address; without an address, on the
anchor that the thread keeps outside its stack. The result is the anchor afterwards, or
`none` if there is no anchor at the address. Work that fails has no anchor as its result, so the
old one stays. To store the words one by one would come to the same: a capture stores its pc
last, and where `Anchor.makeWalkable` breaks a rule after it, that pc is the zero which was there
before. -/
def inspectAnchor (t : ThreadImage) (address : Option Word)
    (x : WalkContext → Anchor → Inspection Anchor) : Report (Option Anchor) :=
  match address with
  | none =>
      let r := t.inspect fun ctx => x ctx t.anchor
      match r.result with
      | .ok a => ⟨.ok (some a), r.log, { r.image with anchor := a }⟩
      | .error e => ⟨.error e, r.log, r.image⟩
  | some address => t.inspect fun ctx => do
      match AnchorSite.load? (← Inspection.stack) address with
      | none => return none
      | some site => return some (← site.store (← x ctx site.anchor)).anchor

/-- Replace the table of installed code. -/
def withTable (t : ThreadImage) (table : CodeTable) : ThreadImage :=
  { t with code := { t.code with table := table } }

end ThreadImage

end StackWalk
