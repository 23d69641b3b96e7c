import StackWalk.Word
import StackWalk.Word.Hex
import StackWalk.Text.Blank
import StackWalk.Text.Unsigned
import StackWalk.Layout
import StackWalk.Failure
import StackWalk.Config
import StackWalk.Config.Environment
import StackWalk.Stack.Bounds
import StackWalk.Stack.Block
import StackWalk.Stack.Snapshot
import StackWalk.Stack.View
import StackWalk.Code.Region
import StackWalk.Code.Table
import StackWalk.Code.Classifier
import StackWalk.Metadata.Method
import StackWalk.Metadata.Table
import StackWalk.Continuation
import StackWalk.Inspection
import StackWalk.Context
import StackWalk.Anchor
import StackWalk.Frame.Basic
import StackWalk.Frame.Entry
import StackWalk.Frame.Interpreted
import StackWalk.Frame.Result
import StackWalk.Frame.Barrier
import StackWalk.Frame.Caller
import StackWalk.Frame.Safety
import StackWalk.Frame.Patch
import StackWalk.Frame.Description
import StackWalk.Walk
import StackWalk.ThreadImage
import StackWalk.Proofs.Frame.Barrier
import StackWalk.Proofs.Frame.Verdict
import StackWalk.Proofs.Frame.Anchored
import StackWalk.Proofs.Frame.Ascent
import StackWalk.Proofs.Safety.Managed
import StackWalk.Proofs.Safety.Upcall
import StackWalk.Proofs.Walk.Chain
import StackWalk.Proofs.Walk.Progress
import StackWalk.Proofs.Stack.Write
import StackWalk.Proofs.Safety.Entry
import StackWalk.Proofs.Frame.Patched
import StackWalk.Proofs.Patch.Callee
import StackWalk.Proofs.Safety.Judged
import StackWalk.Proofs.Safety.Total
import StackWalk.Proofs.Code.Disjoint
import StackWalk.Proofs.Patch.Afresh
import StackWalk.Proofs.Anchor.Episode
import StackWalk.Proofs.Walk.Footprint
import StackWalk.Proofs.Safety.Repeat
import StackWalk.Proofs.Stack.Agreement
import StackWalk.Proofs.Inspection.Related
import StackWalk.Proofs.Inspection.Confined
import StackWalk.Proofs.Frame.Confined
import StackWalk.Proofs.Walk.Session
import StackWalk.Proofs.Safety.Landing
import StackWalk.Proofs.Code.Retirement
import StackWalk.Proofs.Frame.Retired
import StackWalk.Proofs.Safety.Retired
import StackWalk.Proofs.Frame.Size
import StackWalk.Proofs.Safety.Native
import StackWalk.Proofs.Patch.Sequence
import StackWalk.Proofs.Continuation.Order
import StackWalk.Proofs.Frame.First
import StackWalk.Proofs.Walk.Depth
import StackWalk.Proofs.Safety.Stray
import StackWalk.Proofs.Stack.Extent
import StackWalk.Proofs.Stack.Access
import StackWalk.Proofs.Text.Grammar
import StackWalk.Proofs.Config.Environment
