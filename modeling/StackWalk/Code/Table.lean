import StackWalk.Code.Region

/-!
# Table of installed code

The table keeps the installed regions in ascending order of their start addresses and
resolves a pc to the region that contains it. Only the last region that starts at or
below a pc can contain it, so a look-up examines that one alone; in the same way an
insertion compares the new region with its nearest neighbour only.

The table also counts look-ups, insertions and removals.
-/

set_option autoImplicit false

namespace StackWalk

/-- Installed code regions, in ascending order of start address, with their counters. -/
structure CodeTable where
  regions : List CodeRegion
  /-- Look-ups that found a region. -/
  hits : Nat
  /-- Look-ups that found none. -/
  misses : Nat
  /-- Regions inserted so far. -/
  insertions : Nat
  /-- Regions removed one by one so far. -/
  removals : Nat
  deriving Repr

namespace CodeTable

/-- The table without regions, with all counters at zero. -/
def empty : CodeTable := ⟨[], 0, 0, 0, 0⟩

/-- Number of installed regions. -/
def size (t : CodeTable) : Nat := t.regions.length

/-- The last region that starts below `bound`. -/
def lastBelow? (t : CodeTable) (bound : Word) : Option CodeRegion :=
  (t.regions.takeWhile (·.start < bound)).getLast?

/-- The region that contains `pc`. -/
def find? (t : CodeTable) (pc : Word) : Option CodeRegion :=
  (t.regions.takeWhile (·.start ≤ pc)).getLast?.filter (·.contains pc)

/-- The region that starts at `start`. -/
def startingAt? (t : CodeTable) (start : Word) : Option CodeRegion :=
  t.regions.find? (·.start = start)

/-- The new region `r` would overlap its nearest neighbour. A region with the same start
address is no obstacle: it is replaced. -/
def overlaps (t : CodeTable) (r : CodeRegion) : Bool :=
  match t.lastBelow? r.finish with
  | some q => !(q.start == r.start || q.finish ≤ r.start)
  | none => false

/-- Install a region. Answers the region that it replaces and the new table. The neighbour is
compared before anything is stored, so a refusal comes without a new table and the old one
stays. -/
def insert (t : CodeTable) (r : CodeRegion) :
    Except Violation (Option CodeRegion × CodeTable) :=
  if t.overlaps r then .error (.overlappingCode r.start)
  else
    let below := t.regions.takeWhile (·.start < r.start)
    let above := t.regions.dropWhile (·.start ≤ r.start)
    .ok (t.startingAt? r.start,
      { t with regions := below ++ r :: above, insertions := t.insertions + 1 })

/-- Remove the region that starts at `start`. Answers that region and the new table. -/
def remove (t : CodeTable) (start : Word) : Option CodeRegion × CodeTable :=
  match t.startingAt? start with
  | some r =>
      (some r, { t with
        regions := t.regions.filter (·.start ≠ start), removals := t.removals + 1 })
  | none => (none, t)

/-- Remove all regions at once; the counters stay. -/
def clear (t : CodeTable) : CodeTable := { t with regions := [] }

/-- Move the life of the region at `start` forward. Answers whether its stage changed,
the stage that it is in now, and the new table. -/
def advance (t : CodeTable) (start : Word) (target : Liveness) :
    Option (Bool × Liveness × CodeTable) := do
  let r ← t.startingAt? start
  let (changed, r') := r.advance target
  return (changed, r'.liveness,
    { t with regions := t.regions.map fun q => if q.start = start then r' else q })

/-- Count one look-up of `pc`. -/
def countLookup (t : CodeTable) (pc : Word) : CodeTable :=
  if (t.find? pc).isSome then { t with hits := t.hits + 1 }
  else { t with misses := t.misses + 1 }

/-- Share of the look-ups that found a region; zero before the first look-up. -/
def hitRate (t : CodeTable) : Float :=
  if t.hits + t.misses = 0 then 0 else Float.ofNat t.hits / Float.ofNat (t.hits + t.misses)

end CodeTable

end StackWalk
