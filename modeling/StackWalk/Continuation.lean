import StackWalk.Word

/-!
# Mounted continuations

The bottom frame of a mounted continuation returns to a barrier instead of to its real
caller, which only the record of the continuation knows. The records of one thread are
kept from the innermost continuation outwards, that is, by ascending stack pointer of
their entry frames; of two with the same stack pointer the later one comes first.
-/

set_option autoImplicit false

namespace StackWalk

/-- Registers of a parked frame. -/
structure ParkedFrame where
  sp : Word
  fp : Word
  pc : Word
  deriving DecidableEq, Repr

/-- A mounted continuation, as its entry frame recorded it. -/
structure Continuation where
  /-- Stack pointer of the entry frame; the frames of the continuation lie below it. -/
  entrySp : Word
  /-- Where the bottom frame really returns to. -/
  entryPc : Word
  /-- Top frame, if the continuation is parked. -/
  top : Option ParkedFrame
  deriving DecidableEq, Repr

/-- The mounted continuations of one thread, the innermost one first. -/
structure ContinuationList where
  /-- Address to which bottom frames return. -/
  barrierPc : Word
  mounted : List Continuation
  deriving DecidableEq, Repr

namespace ContinuationList

/-- No mounted continuation. -/
def empty (barrierPc : Word) : ContinuationList := ⟨barrierPc, []⟩

/-- Record a mounted continuation, in front of those with the same entry. -/
def push (cs : ContinuationList) (c : Continuation) : ContinuationList :=
  { cs with mounted :=
      cs.mounted.takeWhile (·.entrySp < c.entrySp) ++
        c :: cs.mounted.dropWhile (·.entrySp < c.entrySp) }

/-- Forget the latest continuation entered at `entrySp`. Answers it and the others. -/
def pop (cs : ContinuationList) (entrySp : Word) : Option Continuation × ContinuationList :=
  (cs.mounted.find? (·.entrySp = entrySp),
    { cs with mounted := cs.mounted.eraseP (·.entrySp = entrySp) })

/-- The innermost continuation that contains the stack pointer `sp`. -/
def containing? (cs : ContinuationList) (sp : Word) : Option Continuation :=
  cs.mounted.find? (sp < ·.entrySp)

/-- `pc` is the return barrier; the null address never is. -/
def isBarrier (cs : ContinuationList) (pc : Word) : Bool := pc ≠ 0 && pc = cs.barrierPc

end ContinuationList

end StackWalk
