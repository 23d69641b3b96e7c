import StackWalk.Context

/-!
# Frames

A frame is the triple of stack pointer, frame pointer and pc of one activation, together
with what the pc resolved to. It holds no reference to the stack it describes; a function
that reads the frame's words takes the stack as an argument.

The kind of a frame follows from its code region:

| region                              | kind          |
|-------------------------------------|---------------|
| call stub                           | `entry`       |
| upcall stub                         | `upcall`      |
| interpreter                         | `interpreted` |
| compiled code, runtime stub, adapter| `compiled`    |
| none                                | `native`      |

A frame whose return address was redirected to a deoptimization handler has two pcs: the
raw one, which is stored on the stack, and the logical one, at which it still executes.
-/

set_option autoImplicit false

namespace StackWalk

/-- How a frame is laid out on the stack. -/
inductive FrameKind where
  /-- Call stub that enters managed code from native code. -/
  | entry
  /-- Upcall stub that enters managed code from a foreign call. -/
  | upcall
  /-- Frame of the interpreter. -/
  | interpreted
  /-- Frame of fixed size: compiled method, runtime stub or adapter. -/
  | compiled
  /-- Frame of code that is not known. -/
  | native
  deriving DecidableEq, Repr

namespace FrameKind

/-- Kind of a frame whose pc resolved to the given region. -/
def ofRegion : Option CodeRegion → FrameKind
  | none => native
  | some r =>
      match r.kind with
      | .callStub => entry
      | .upcallStub _ => upcall
      | .interpreter => interpreted
      | .compiled _ | .runtimeStub | .adapter => compiled

/-- Name of the kind in texts. -/
def name : FrameKind → String
  | entry => "entry"
  | upcall => "optimized entry"
  | interpreted => "interpreted"
  | compiled => "compiled"
  | native => "native"

end FrameKind

/-- One activation on a stack. -/
structure Frame where
  sp : Word
  /-- Stack pointer as the frame's own code sees it, before a callee extended the frame. -/
  unextendedSp : Word
  fp : Word
  /-- The pc that is stored in the frame's return slot. -/
  rawPc : Word
  region : Option CodeRegion
  kind : FrameKind
  /-- The pc at which a deoptimized frame still executes; `none` if it is not
  deoptimized. -/
  deoptimizedPc : Option Word
  deriving DecidableEq, Repr

namespace Frame

/-- The logical pc of a frame that would have `rawPc` as its raw one, if the frame is
deoptimized. It is the pc saved in the frame; the deoptimization stub saves none, and a
frame in it is at its raw pc. -/
def deoptimizedPcIn (region : Option CodeRegion) (rawPc unextendedSp : Word) (v : StackView) :
    Option Word :=
  match region with
  | none => none
  | some r => r.savedPc? rawPc unextendedSp v <|> if r.isDeoptStub then some rawPc else none

/-- The frame with the given registers, whose pc resolved to `region`. -/
def ofRegion (v : StackView) (region : Option CodeRegion) (sp unextendedSp fp pc : Word) :
    Frame where
  sp := sp
  unextendedSp := unextendedSp
  fp := fp
  rawPc := pc
  region := region
  kind := .ofRegion region
  deoptimizedPc := deoptimizedPcIn region pc unextendedSp v

/-- The logical pc. -/
def pc (f : Frame) : Word := f.deoptimizedPc.getD f.rawPc

/-- The frame was redirected to a deoptimization handler. -/
def isDeoptimized (f : Frame) : Bool := f.deoptimizedPc.isSome

/-- The frame is one of the interpreter. -/
def isInterpreted (f : Frame) : Bool := f.kind = .interpreted

/-- The caller's frame pointer, as saved at `fp`. -/
def link? (f : Frame) (v : StackView) : Option Word := v.readAt? f.fp FrameSlot.link

/-- The return address above the saved frame pointer. -/
def returnAddress? (f : Frame) (v : StackView) : Option Word :=
  v.readAt? f.fp FrameSlot.returnAddress

/-- The caller's stack pointer, for a frame that pushed a frame pointer. -/
def callerSp? (f : Frame) : Option Word := f.fp.offset? FrameSlot.callerSp

/-- Address of an argument of the call that an entry frame made. -/
def argumentAddress? (f : Frame) (index : Int) : Option Word := f.unextendedSp.offset? index

/-- Both frames have the same place on the stack and the same interpretation. -/
def sameAs (f g : Frame) : Bool :=
  f.sp = g.sp && f.unextendedSp = g.unextendedSp && f.fp = g.fp && f.rawPc = g.rawPc &&
    f.kind = g.kind && f.deoptimizedPc = g.deoptimizedPc

/-- Text of a frame. -/
def text (f : Frame) : String :=
  s!"{f.kind.name} frame sp={f.sp.hex} usp={f.unextendedSp.hex} fp={f.fp.hex} pc={f.pc.hex}" ++
    (if f.isDeoptimized then s!" (deoptimized, raw pc={f.rawPc.hex})" else "") ++
    match f.region with
    | some r => if r.name = "" then "" else s!" in {r.name}"
    | none => ""

end Frame

namespace WalkContext

/-- Build the frame with the given registers. -/
def frameWith (ctx : WalkContext) (sp unextendedSp fp pc : Word) : Inspection Frame := do
  let region ← ctx.lookup pc
  return Frame.ofRegion (← Inspection.stack) region sp unextendedSp fp pc

/-- Build the frame with the given registers, which no callee has extended. -/
def frameAt (ctx : WalkContext) (sp fp pc : Word) : Inspection Frame :=
  ctx.frameWith sp sp fp pc

end WalkContext

end StackWalk
