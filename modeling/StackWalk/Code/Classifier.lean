import StackWalk.Code.Table

/-!
# Resolving a pc to its code

A walk sees the code of a process as a function from addresses to regions. In general
that function need not agree with the extent of the regions: a `CodeWindow` makes a
whole range of addresses resolve to one region, whether or not the region contains
them. `CodeMap` asks its windows first and its table after that.
-/

set_option autoImplicit false

namespace StackWalk

/-- Resolves a program counter to the code region it belongs to. Nothing else about a pc is left
to it: whether the pc lies in the interpreter or returns to the call stub follows from the kind
of that region, by the same rule for every classifier (`WalkContext.inInterpreter`,
`WalkContext.returnsToCallStub`). -/
abbrev Classifier := Word → Option CodeRegion

/-- Range of addresses, `last` excluded, that resolves to a region of its own. -/
structure CodeWindow where
  first : Word
  last : Word
  region : CodeRegion
  deriving Repr

/-- The window covers `pc`. -/
def CodeWindow.covers (w : CodeWindow) (pc : Word) : Bool := w.first ≤ pc && pc < w.last

/-- The code of a process: a table of regions, overlaid by windows. -/
structure CodeMap where
  table : CodeTable
  windows : List CodeWindow
  deriving Repr

namespace CodeMap

/-- The first window that covers `pc`. -/
def window? (m : CodeMap) (pc : Word) : Option CodeWindow := m.windows.find? (·.covers pc)

/-- The region of `pc`: that of the first window that covers it, else the region of the
table that contains it. -/
def classify (m : CodeMap) : Classifier := fun pc =>
  match m.window? pc with
  | some w => some w.region
  | none => m.table.find? pc

/-- Count the given look-ups. One that a window answers does not reach the table. -/
def countLookups (m : CodeMap) (pcs : List Word) : CodeMap :=
  { m with table := pcs.foldl (fun t pc =>
      if (m.window? pc).isSome then t else t.countLookup pc) m.table }

end CodeMap

end StackWalk
