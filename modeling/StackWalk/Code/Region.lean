import StackWalk.Stack.View

/-!
# Code regions

A code region is a span of executable memory with what a stack walk has to know about
it: the kind of code, the size of its frames, the offset from which a frame is fully
set up, and whether the code is still alive.

A region starts out alive and may be retired to `zombie` and then to `unloaded`; its
liveness never moves back (`rank_le_rank_advance`). Everything else about it is fixed.
-/

set_option autoImplicit false

namespace StackWalk

/-- What a region of compiled code knows about deoptimization. -/
structure DeoptInfo where
  /-- Offset of the deoptimization handler. -/
  handler : Option Word
  /-- Offset of the deoptimization handler for method handle calls. -/
  methodHandleHandler : Option Word
  /-- Bytes from a frame's unextended stack pointer to the slot that keeps the pc at
  which the frame was when it was deoptimized. -/
  savedPcOffset : Option Word
  /-- The code is a method handle intrinsic. -/
  isIntrinsic : Bool
  deriving DecidableEq, Repr

/-- Kind of the code in a region, with the properties that only this kind has. -/
inductive CodeKind where
  /-- Compiled method. -/
  | compiled (info : Option DeoptInfo)
  /-- Runtime helper with a frame of its own. -/
  | runtimeStub
  /-- Adapter between the calling conventions of interpreted and compiled code. -/
  | adapter
  /-- Call stub through which native code enters managed code. -/
  | callStub
  /-- Upcall stub through which a foreign call enters managed code; its frames keep a
  data block, which starts with their anchor, at this offset. -/
  | upcallStub (dataOffset : Option Word)
  /-- The interpreter. -/
  | interpreter
  deriving DecidableEq, Repr

/-- The frame-complete offset of this kind of code can be relied on. -/
def CodeKind.tracksCompletion : CodeKind → Bool
  | compiled _ | runtimeStub | adapter => true
  | callStub | upcallStub _ | interpreter => false

/-- Stage in the life of a region. -/
inductive Liveness where
  /-- The code runs and may be entered. -/
  | alive
  /-- The code is not entered any more but may still have frames. -/
  | zombie
  /-- The code has been unloaded. -/
  | unloaded
  deriving DecidableEq, Repr

/-- Position of a stage in the life of a region. -/
def Liveness.rank : Liveness → Nat
  | alive => 0
  | zombie => 1
  | unloaded => 2

/-- One installed piece of code. -/
structure CodeRegion where
  id : Nat
  /-- Name in diagnostics; may be empty. -/
  name : String
  kind : CodeKind
  /-- Address of the first instruction. -/
  start : Word
  /-- Size of the code in bytes. -/
  size : Word
  /-- Size of a frame in words, return address included. -/
  frameSize : Int
  /-- Offset from which the frame is set up; `none` if it never is. -/
  completeFrom : Option Word
  liveness : Liveness
  /-- The region is the deoptimization stub. -/
  isDeoptStub : Bool
  deriving DecidableEq, Repr

namespace CodeRegion

/-- A living, nameless region of the given kind. The frames of an adapter are never
complete; those of any other code are complete from its start. -/
def ofCode (id : Nat) (kind : CodeKind) (start size : Word) : CodeRegion where
  id := id
  name := ""
  kind := kind
  start := start
  size := size
  frameSize := 0
  completeFrom := match kind with
    | .adapter => none
    | _ => some 0
  liveness := .alive
  isDeoptStub := false

/-- The region with the given deoptimization data, which only compiled code has. -/
def withDeoptInfo (r : CodeRegion) (info : DeoptInfo) : Except Violation CodeRegion :=
  match r.kind with
  | .compiled _ => .ok { r with kind := .compiled (some info) }
  | _ => .error .wrongCodeKind

/-- The region with frame data at the given offset, which only an upcall stub has. -/
def withDataOffset (r : CodeRegion) (offset : Word) : Except Violation CodeRegion :=
  match r.kind with
  | .upcallStub _ => .ok { r with kind := .upcallStub (some offset) }
  | _ => .error .wrongCodeKind

/-- Deoptimization data of compiled code. -/
def deoptInfo? (r : CodeRegion) : Option DeoptInfo :=
  match r.kind with
  | .compiled info => info
  | _ => none

/-- Offset of the frame data of an upcall stub. -/
def dataOffset? (r : CodeRegion) : Option Word :=
  match r.kind with
  | .upcallStub offset => offset
  | _ => none

/-- The region holds a compiled method. -/
def isCompiled (r : CodeRegion) : Bool := r.kind matches .compiled _

/-- The region is a runtime helper. -/
def isRuntimeStub (r : CodeRegion) : Bool := r.kind matches .runtimeStub

/-- The region is an adapter. -/
def isAdapter (r : CodeRegion) : Bool := r.kind matches .adapter

/-- The region is the call stub. -/
def isCallStub (r : CodeRegion) : Bool := r.kind matches .callStub

/-- The region is an upcall stub. -/
def isUpcallStub (r : CodeRegion) : Bool := r.kind matches .upcallStub _

/-- The region is the interpreter. -/
def isInterpreter (r : CodeRegion) : Bool := r.kind matches .interpreter

/-- The code may be entered. -/
def isAlive (r : CodeRegion) : Bool := r.liveness = .alive

/-- The code is a method handle intrinsic. -/
def isIntrinsic (r : CodeRegion) : Bool := r.deoptInfo?.any (·.isIntrinsic)

/-- One past the last address of the code, cut off at the highest address. -/
def finish (r : CodeRegion) : Word := Word.saturatingAdd r.start r.size

/-- The address lies in the code. -/
def contains (r : CodeRegion) (pc : Word) : Bool := r.start ≤ pc && pc < r.finish

/-- The frame is fully set up at `pc`. -/
def isCompleteAt (r : CodeRegion) (pc : Word) : Bool :=
  match r.completeFrom with
  | some offset => r.contains pc && Word.saturatingAdd r.start offset ≤ pc
  | none => false

/-- Move the region's life forward to `target`; a request to move it back changes
nothing. The first component says whether the stage changed. -/
def advance (r : CodeRegion) (target : Liveness) : Bool × CodeRegion :=
  if r.liveness.rank < target.rank then (true, { r with liveness := target }) else (false, r)

/-- Address of the handler at an offset that the deoptimization data give. -/
def handlerAt? (r : CodeRegion) (offset : DeoptInfo → Option Word) : Option Word :=
  (r.deoptInfo?.bind offset).bind (Word.checkedAdd? r.start)

/-- `pc` is the deoptimization handler. -/
def isDeoptEntry (r : CodeRegion) (pc : Word) : Bool :=
  r.handlerAt? (·.handler) = some pc

/-- `pc` is the deoptimization handler for method handle calls. -/
def isMethodHandleDeoptEntry (r : CodeRegion) (pc : Word) : Bool :=
  r.handlerAt? (·.methodHandleHandler) = some pc

/-- `pc` is one of the deoptimization handlers. -/
def isDeoptPc (r : CodeRegion) (pc : Word) : Bool :=
  r.isDeoptEntry pc || r.isMethodHandleDeoptEntry pc

/-- The pc at which a frame was before its return address was replaced by `rawPc`. Only
a frame redirected to a deoptimization handler has one; it was saved in the frame before
the redirection, and zero means that it was not. -/
def savedPc? (r : CodeRegion) (rawPc unextendedSp : Word) (v : StackView) : Option Word :=
  if r.isDeoptPc rawPc then do
    let offset ← r.deoptInfo?.bind (·.savedPcOffset)
    let slot ← Word.checkedAdd? unextendedSp offset
    (v.read? slot).filter (· ≠ 0)
  else none

/-- A region never moves back in its life. -/
theorem rank_le_rank_advance (r : CodeRegion) (target : Liveness) :
    r.liveness.rank ≤ (r.advance target).2.liveness.rank := by
  rw [advance]
  split
  · next h => exact Nat.le_of_lt h
  · exact Nat.le_refl _

/-- Advancing reports a change exactly if the stage is another one afterwards. -/
theorem advance_fst_iff (r : CodeRegion) (target : Liveness) :
    (r.advance target).1 = true ↔ (r.advance target).2.liveness ≠ r.liveness := by
  rw [advance]
  split
  · next h =>
      simp only [ne_eq, true_iff]
      rintro rfl
      exact Nat.lt_irrefl _ h
  · simp

end CodeRegion

end StackWalk
