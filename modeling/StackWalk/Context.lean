import StackWalk.Code.Classifier
import StackWalk.Config
import StackWalk.Continuation
import StackWalk.Inspection
import StackWalk.Metadata.Table

/-!
# Context of a walk

Everything besides the stack memory that frame operations consult: what code there is,
which metadata are known, which continuations are mounted, and the configuration.
-/

set_option autoImplicit false

namespace StackWalk

/-- The surroundings of one thread's stack. -/
structure WalkContext where
  code : Classifier
  metadata : MetadataOracle
  /-- Mounted continuations; `none` in a process that has no continuations at all. -/
  continuations : Option ContinuationList
  config : WalkConfig
  /-- The thread that walks the stack is the one that owns it. -/
  isOwner : Bool

namespace WalkContext

/-- Layout of entry frames. -/
def layout (ctx : WalkContext) : EntryLayout := ctx.config.layout

/-- Look up the code of `pc`. -/
def lookup (ctx : WalkContext) (pc : Word) : Inspection (Option CodeRegion) := do
  Inspection.emit (.lookup pc)
  return ctx.code pc

/-- `pc` lies in the interpreter. -/
def inInterpreter (ctx : WalkContext) (pc : Word) : Inspection Bool :=
  return (← ctx.lookup pc).any (·.isInterpreter)

/-- `pc` is a return address into the call stub. -/
def returnsToCallStub (ctx : WalkContext) (pc : Word) : Inspection Bool :=
  return (← ctx.lookup pc).any (·.isCallStub)

/-- `pc` is the return barrier of the mounted continuations. -/
def isBarrier (ctx : WalkContext) (pc : Word) : Bool :=
  ctx.continuations.any (·.isBarrier pc)

end WalkContext

end StackWalk
