import StackWalk.Code.Table

/-!
# Installed code is disjoint

A table of installed code is only ever changed by inserting, removing and retiring regions and
by clearing it. Whatever the order of these changes, each installed region ends before the next
one begins (`isDisjoint_of_changes`). Empty regions are no exception, nor are regions whose end
is cut off at the highest address.

Disjointness is what makes the examination of a single neighbour enough. A look-up agrees with
a search through all regions (`find?_eq_some_iff`, `find?_eq_find?_regions`), and an insertion is
refused exactly if some region with another start address overlaps the new one
(`overlaps_eq_true_iff`).
-/

set_option autoImplicit false

namespace StackWalk

namespace CodeRegion

variable {q r : CodeRegion}

/-- The region `q` ends before `r` begins. -/
def Precedes (q r : CodeRegion) : Prop := q.start < r.start ∧ q.finish ≤ r.start

theorem start_le_finish (r : CodeRegion) : r.start ≤ r.finish := by
  have := UInt64.toNat_lt r.start
  rw [finish, UInt64.le_iff_toNat_le, Word.toNat_saturatingAdd]
  omega

theorem contains_iff {pc : Word} : r.contains pc = true ↔ r.start ≤ pc ∧ pc < r.finish := by
  simp [contains]

/-- A region keeps its place for life. -/
theorem advance_place (r : CodeRegion) (target : Liveness) :
    (r.advance target).2.start = r.start ∧ (r.advance target).2.finish = r.finish := by
  rw [advance]
  split <;> exact ⟨rfl, rfl⟩

theorem Precedes.trans {s : CodeRegion} (h : q.Precedes r) (h' : r.Precedes s) :
    q.Precedes s :=
  ⟨UInt64.lt_trans h.1 h'.1, UInt64.le_trans h.2 (UInt64.le_of_lt h'.1)⟩

/-- No address lies in two regions of which one precedes the other. -/
theorem Precedes.not_contains {pc : Word} (h : q.Precedes r) (hr : r.start ≤ pc) :
    ¬ q.contains pc = true := by
  intro hq
  exact UInt64.not_lt.2 (UInt64.le_trans h.2 hr) (contains_iff.1 hq).2

end CodeRegion

namespace CodeTable

/-! ## Lists of disjoint regions -/

section Disjoint

variable {l : List CodeRegion} {q r : CodeRegion} {p : CodeRegion → Bool}

/-- Of two regions of a disjoint list, one precedes the other. -/
theorem precedes_or_eq (h : l.Pairwise CodeRegion.Precedes) (hq : q ∈ l) (hr : r ∈ l) :
    q.Precedes r ∨ q = r ∨ r.Precedes q := by
  induction l with
  | nil => simp at hq
  | cons a l ih =>
      rw [List.pairwise_cons] at h
      rw [List.mem_cons] at hq hr
      rcases hq with rfl | hq
      · rcases hr with rfl | hr
        · exact Or.inr (Or.inl rfl)
        · exact Or.inl (h.1 r hr)
      · rcases hr with rfl | hr
        · exact Or.inr (Or.inr (h.1 q hq))
        · exact ih h.2 hq hr

theorem precedes_of_start_lt (h : l.Pairwise CodeRegion.Precedes) (hq : q ∈ l) (hr : r ∈ l)
    (lt : q.start < r.start) : q.Precedes r := by
  rcases precedes_or_eq h hq hr with before | rfl | after
  · exact before
  · exact absurd lt (UInt64.lt_irrefl _)
  · exact absurd (UInt64.lt_trans lt after.1) (UInt64.lt_irrefl _)

theorem eq_of_start_eq (h : l.Pairwise CodeRegion.Precedes) (hq : q ∈ l) (hr : r ∈ l)
    (same : q.start = r.start) : q = r := by
  rcases precedes_or_eq h hq hr with before | eq | after
  · exact absurd (same ▸ before.1) (UInt64.lt_irrefl _)
  · exact eq
  · exact absurd (same ▸ after.1) (UInt64.lt_irrefl _)

section Down

/-! The regions of a disjoint list ascend. If `p` passes every region that begins below one that
it passes, those that pass stand in front of those that fail. -/

variable (h : l.Pairwise CodeRegion.Precedes)
  (down : ∀ q r, q.start < r.start → p r = true → p q = true)

include h down

/-- If the first region fails, so do all others. -/
theorem takeWhile_eq_filter : l.takeWhile p = l.filter p := by
  induction l with
  | nil => rfl
  | cons a l ih =>
      rw [List.pairwise_cons] at h
      cases ha : p a with
      | true => rw [List.takeWhile_cons_of_pos ha, List.filter_cons_of_pos ha, ih h.2]
      | false =>
          have fails : p a ≠ true := Bool.eq_false_iff.1 ha
          rw [List.takeWhile_cons_of_neg fails, List.filter_cons_of_neg fails, eq_comm,
            List.filter_eq_nil_iff]
          intro q hq passes
          exact fails (down a q (h.1 q hq).1 passes)

theorem mem_takeWhile_iff : q ∈ l.takeWhile p ↔ q ∈ l ∧ p q = true := by
  rw [takeWhile_eq_filter h down, List.mem_filter]

theorem dropWhile_eq_filter : l.dropWhile p = l.filter (!p ·) := by
  induction l with
  | nil => rfl
  | cons a l ih =>
      rw [List.pairwise_cons] at h
      cases ha : p a with
      | true =>
          rw [List.dropWhile_cons_of_pos ha, List.filter_cons_of_neg (by simp [ha]), ih h.2]
      | false =>
          have fails : p a ≠ true := Bool.eq_false_iff.1 ha
          rw [List.dropWhile_cons_of_neg fails, eq_comm, List.filter_eq_self]
          intro q hq
          rw [List.mem_cons] at hq
          rcases hq with rfl | hq
          · simp [ha]
          · simp only [Bool.not_eq_true']
            exact Bool.eq_false_iff.2 fun passes => fails (down a q (h.1 q hq).1 passes)

theorem mem_dropWhile_iff : q ∈ l.dropWhile p ↔ q ∈ l ∧ p q = false := by
  rw [dropWhile_eq_filter h down, List.mem_filter, Bool.not_eq_true']

end Down

/-- The last region of a disjoint list is the one that begins highest. -/
theorem getLast?_eq_some_iff_highest (h : l.Pairwise CodeRegion.Precedes) :
    l.getLast? = some q ↔ q ∈ l ∧ ∀ r ∈ l, r.start ≤ q.start := by
  have highest : ∀ q, l.getLast? = some q → q ∈ l ∧ ∀ r ∈ l, r.start ≤ q.start := by
    intro q hq
    obtain ⟨front, rfl⟩ := List.getLast?_eq_some_iff.1 hq
    refine ⟨by simp, fun r hr => ?_⟩
    rw [List.mem_append, List.mem_singleton] at hr
    rcases hr with hr | rfl
    · exact UInt64.le_of_lt ((List.pairwise_append.1 h).2.2 r hr q (by simp)).1
    · exact UInt64.le_refl _
  constructor
  · exact highest q
  · rintro ⟨hq, top⟩
    cases hm : l.getLast? with
    | none =>
        rw [List.getLast?_eq_none_iff.1 hm] at hq
        simp at hq
    | some m =>
        obtain ⟨mem, above⟩ := highest m hm
        rw [eq_of_start_eq h mem hq (UInt64.le_antisymm (top m mem) (above q hq))]

/-- The nearest region that passes `p`, as a look-up and an insertion find it. -/
theorem nearest_eq_some_iff (h : l.Pairwise CodeRegion.Precedes)
    (down : ∀ q r, q.start < r.start → p r = true → p q = true) :
    (l.takeWhile p).getLast? = some q ↔
      (q ∈ l ∧ p q = true) ∧ ∀ r ∈ l, p r = true → r.start ≤ q.start := by
  rw [getLast?_eq_some_iff_highest (h.sublist (List.takeWhile_sublist p)),
    mem_takeWhile_iff h down]
  refine and_congr_right fun _ => ?_
  simp only [mem_takeWhile_iff h down, and_imp]

end Disjoint

variable {t : CodeTable} {q r : CodeRegion} {pc start : Word}

/-- Each installed region ends before the next one begins. -/
def IsDisjoint (t : CodeTable) : Prop := t.regions.Pairwise CodeRegion.Precedes

theorem startsBelow_down (bound : Word) (q r : CodeRegion) (lt : q.start < r.start)
    (h : decide (r.start < bound) = true) : decide (q.start < bound) = true :=
  decide_eq_true (UInt64.lt_trans lt (of_decide_eq_true h))

theorem startsUpTo_down (bound : Word) (q r : CodeRegion) (lt : q.start < r.start)
    (h : decide (r.start ≤ bound) = true) : decide (q.start ≤ bound) = true :=
  decide_eq_true (UInt64.le_trans (UInt64.le_of_lt lt) (of_decide_eq_true h))

/-! ## Look-ups -/

/-- The region of a pc is the one installed region that contains it. -/
theorem find?_eq_some_iff (h : t.IsDisjoint) :
    t.find? pc = some r ↔ r ∈ t.regions ∧ r.contains pc = true := by
  rw [find?, Option.filter_eq_some_iff, nearest_eq_some_iff h (startsUpTo_down pc)]
  constructor
  · rintro ⟨⟨⟨mem, -⟩, -⟩, inside⟩
    exact ⟨mem, inside⟩
  · rintro ⟨mem, inside⟩
    refine ⟨⟨⟨mem, decide_eq_true (CodeRegion.contains_iff.1 inside).1⟩, ?_⟩, inside⟩
    -- a region between the start of `r` and the pc would have to begin where `r` has ended
    intro q hq upTo
    refine UInt64.not_lt.1 fun lt => ?_
    exact (precedes_of_start_lt h mem hq lt).not_contains (of_decide_eq_true upTo) inside

/-- A look-up agrees with a search through all installed regions. -/
theorem find?_eq_find?_regions (h : t.IsDisjoint) (pc : Word) :
    t.find? pc = t.regions.find? (·.contains pc) := by
  cases scan : t.regions.find? (·.contains pc) with
  | some r =>
      have inside := List.find?_some scan
      exact (find?_eq_some_iff h).2 ⟨List.mem_of_find?_eq_some scan, inside⟩
  | none =>
      cases found : t.find? pc with
      | none => rfl
      | some r =>
          obtain ⟨mem, inside⟩ := (find?_eq_some_iff h).1 found
          exact absurd inside (List.find?_eq_none.1 scan r mem)

theorem startingAt?_eq_some_iff (h : t.IsDisjoint) :
    t.startingAt? start = some r ↔ r ∈ t.regions ∧ r.start = start := by
  constructor
  · intro found
    have begins := List.find?_some found
    exact ⟨List.mem_of_find?_eq_some found, of_decide_eq_true begins⟩
  · rintro ⟨mem, rfl⟩
    cases found : t.startingAt? r.start with
    | none => exact absurd (decide_eq_true rfl) (List.find?_eq_none.1 found r mem)
    | some s =>
        have begins := List.find?_some found
        have same := eq_of_start_eq h (List.mem_of_find?_eq_some found) mem
        rw [same (of_decide_eq_true begins)]

/-! ## Insertions -/

/-- Some region that begins elsewhere begins before `r` has ended, and ends after `r` has begun. -/
def Obstructs (t : CodeTable) (r : CodeRegion) : Prop :=
  ∃ q ∈ t.regions, q.start ≠ r.start ∧ q.start < r.finish ∧ r.start < q.finish

/-- Comparing the new region with its nearest neighbour finds every obstacle. -/
theorem overlaps_eq_true_iff (h : t.IsDisjoint) : t.overlaps r = true ↔ t.Obstructs r := by
  have nearest {m : CodeRegion} : t.lastBelow? r.finish = some m ↔
      (m ∈ t.regions ∧ decide (m.start < r.finish) = true) ∧
        ∀ q ∈ t.regions, decide (q.start < r.finish) = true → q.start ≤ m.start :=
    nearest_eq_some_iff h (startsBelow_down r.finish)
  rw [overlaps]
  cases hm : t.lastBelow? r.finish with
  | none =>
      refine iff_of_false Bool.false_ne_true ?_
      rintro ⟨q, hq, -, below, -⟩
      have inFront := (mem_takeWhile_iff h (startsBelow_down r.finish)).2
        ⟨hq, decide_eq_true below⟩
      rw [List.getLast?_eq_none_iff.1 hm] at inFront
      simp at inFront
  | some m =>
      obtain ⟨⟨mem, below⟩, highest⟩ := nearest.1 hm
      simp only [Bool.not_eq_true', Bool.or_eq_false_iff, beq_eq_false_iff_ne, ne_eq,
        decide_eq_false_iff_not, UInt64.not_le]
      constructor
      · rintro ⟨elsewhere, above⟩
        exact ⟨m, mem, elsewhere, of_decide_eq_true below, above⟩
      · rintro ⟨q, hq, elsewhere, beneath, above⟩
        rcases precedes_or_eq h hq mem with before | rfl | after
        -- the obstacle ends at or below the start of the neighbour, which is one itself
        · have later := UInt64.lt_of_lt_of_le above before.2
          exact ⟨(UInt64.ne_of_lt later).symm, UInt64.lt_of_lt_of_le later m.start_le_finish⟩
        · exact ⟨elsewhere, above⟩
        · exact absurd (highest q hq (decide_eq_true beneath)) (UInt64.not_le.2 after.1)

/-- A region without any addresses is in the way where it begins inside another one. -/
example : { empty with regions := [.ofCode 0 .callStub 0x4000 0x100] }.overlaps
    (.ofCode 1 .callStub 0x4080 0) = true := by decide

/-- The table `u` is `t` with `r` installed, and `old` is the region that `r` replaces. -/
structure Installs (t : CodeTable) (r : CodeRegion) (old : Option CodeRegion) (u : CodeTable) :
    Prop where
  replaced : ∀ q, old = some q ↔ q ∈ t.regions ∧ q.start = r.start
  installed : ∀ q, q ∈ u.regions ↔ q = r ∨ q ∈ t.regions ∧ q.start ≠ r.start

/-- The table after `r` was put in its place. -/
def withRegion (t : CodeTable) (r : CodeRegion) : CodeTable :=
  { t with
    regions := t.regions.takeWhile (·.start < r.start) ++
      r :: t.regions.dropWhile (·.start ≤ r.start)
    insertions := t.insertions + 1 }

theorem insert_eq (t : CodeTable) (r : CodeRegion) :
    t.insert r = if t.overlaps r then .error (.overlappingCode r.start)
      else .ok (t.startingAt? r.start, t.withRegion r) := rfl

theorem mem_below_iff (h : t.IsDisjoint) (bound : Word) :
    q ∈ t.regions.takeWhile (·.start < bound) ↔ q ∈ t.regions ∧ q.start < bound := by
  rw [mem_takeWhile_iff h (startsBelow_down bound), decide_eq_true_eq]

theorem mem_above_iff (h : t.IsDisjoint) (bound : Word) :
    q ∈ t.regions.dropWhile (·.start ≤ bound) ↔ q ∈ t.regions ∧ bound < q.start := by
  rw [mem_dropWhile_iff h (startsUpTo_down bound), decide_eq_false_iff_not, UInt64.not_le]

theorem installs_withRegion (h : t.IsDisjoint) (r : CodeRegion) :
    t.Installs r (t.startingAt? r.start) (t.withRegion r) := by
  refine ⟨fun q => startingAt?_eq_some_iff h, fun q => ?_⟩
  rw [withRegion, List.mem_append, List.mem_cons, mem_below_iff h, mem_above_iff h]
  constructor
  · rintro (⟨mem, below⟩ | rfl | ⟨mem, above⟩)
    · exact Or.inr ⟨mem, UInt64.ne_of_lt below⟩
    · exact Or.inl rfl
    · exact Or.inr ⟨mem, (UInt64.ne_of_lt above).symm⟩
  · rintro (rfl | ⟨mem, elsewhere⟩)
    · exact Or.inr (Or.inl rfl)
    · rcases UInt64.lt_or_lt_of_ne elsewhere with below | above
      · exact Or.inl ⟨mem, below⟩
      · exact Or.inr (Or.inr ⟨mem, above⟩)

/-- A region that nothing obstructs can be put in its place. -/
theorem isDisjoint_withRegion (h : t.IsDisjoint) (free : ¬ t.Obstructs r) :
    (t.withRegion r).IsDisjoint := by
  have before : ∀ q ∈ t.regions, q.start < r.start → q.Precedes r := by
    intro q hq lt
    refine ⟨lt, UInt64.not_lt.1 fun reaches => free ?_⟩
    exact ⟨q, hq, UInt64.ne_of_lt lt, UInt64.lt_of_lt_of_le lt r.start_le_finish, reaches⟩
  have after : ∀ q ∈ t.regions, r.start < q.start → r.Precedes q := by
    intro q hq lt
    refine ⟨lt, UInt64.not_lt.1 fun reaches => free ?_⟩
    exact ⟨q, hq, (UInt64.ne_of_lt lt).symm, reaches,
      UInt64.lt_of_lt_of_le lt q.start_le_finish⟩
  rw [IsDisjoint, withRegion, List.pairwise_append, List.pairwise_cons]
  refine ⟨h.sublist (List.takeWhile_sublist _), ⟨?_, h.sublist (List.dropWhile_sublist _)⟩, ?_⟩
  · intro q hq
    obtain ⟨mem, above⟩ := (mem_above_iff h r.start).1 hq
    exact after q mem above
  · intro q hq s hs
    obtain ⟨mem, below⟩ := (mem_below_iff h r.start).1 hq
    rw [List.mem_cons] at hs
    rcases hs with rfl | hs
    · exact before q mem below
    · obtain ⟨mem', above⟩ := (mem_above_iff h r.start).1 hs
      exact (before q mem below).trans (after s mem' above)

/-! ## Changes -/

/-- What happens to a table of installed code. -/
inductive Change where
  | insert (r : CodeRegion)
  | remove (start : Word)
  | clear
  /-- The region at `start` moves on in its life. -/
  | advance (start : Word) (target : Liveness)
  | lookUp (pc : Word)

/-- The table after a change. An insertion that is refused leaves it as it is, for it answers no
new table; neither does a call on a region that is not there. -/
def change (t : CodeTable) : Change → CodeTable
  | .insert r =>
      match t.insert r with
      | .ok (_, u) => u
      | .error _ => t
  | .remove start => (t.remove start).2
  | .clear => t.clear
  | .advance start target =>
      match t.advance start target with
      | some (_, _, u) => u
      | none => t
  | .lookUp pc => t.countLookup pc

/-- The table after several changes. -/
def afterChanges (t : CodeTable) (changes : List Change) : CodeTable := changes.foldl change t

theorem isDisjoint_insert (h : t.IsDisjoint) (r : CodeRegion) :
    (t.change (.insert r)).IsDisjoint := by
  rw [change, insert_eq]
  cases free : t.overlaps r with
  | true => exact h
  | false =>
      refine isDisjoint_withRegion h fun obstructed => ?_
      exact Bool.false_ne_true (free.symm.trans ((overlaps_eq_true_iff h).2 obstructed))

theorem isDisjoint_remove (h : t.IsDisjoint) (start : Word) :
    (t.change (.remove start)).IsDisjoint := by
  rw [change, remove]
  cases t.startingAt? start with
  | none => exact h
  | some r => exact h.sublist List.filter_sublist

theorem isDisjoint_advance (h : t.IsDisjoint) (start : Word) (target : Liveness) :
    (t.change (.advance start target)).IsDisjoint := by
  rw [change, advance]
  cases found : t.startingAt? start with
  | none => exact h
  | some r =>
      obtain ⟨mem, rfl⟩ := (startingAt?_eq_some_iff h).1 found
      -- only `r` itself is exchanged, for a region at the same place
      have kept : ∀ q ∈ t.regions,
          (if q.start = r.start then (r.advance target).2 else q).start = q.start ∧
            (if q.start = r.start then (r.advance target).2 else q).finish = q.finish := by
        intro q hq
        split
        · next same =>
          rw [eq_of_start_eq h hq mem same]
          exact r.advance_place target
        · exact ⟨rfl, rfl⟩
      show (t.regions.map fun q => if q.start = r.start then (r.advance target).2 else q).Pairwise
        CodeRegion.Precedes
      rw [List.pairwise_map]
      refine h.imp_of_mem fun {q s} hq hs before => ?_
      rw [CodeRegion.Precedes, (kept q hq).1, (kept q hq).2, (kept s hs).1]
      exact before

theorem isDisjoint_empty : empty.IsDisjoint := List.Pairwise.nil

theorem isDisjoint_change (h : t.IsDisjoint) (c : Change) : (t.change c).IsDisjoint := by
  cases c with
  | insert r => exact isDisjoint_insert h r
  | remove start => exact isDisjoint_remove h start
  | clear => exact List.Pairwise.nil
  | advance start target => exact isDisjoint_advance h start target
  | lookUp pc =>
      rw [change, countLookup]
      split <;> exact h

/-- No sequence of changes makes installed regions overlap. -/
theorem isDisjoint_of_changes (h : t.IsDisjoint) (changes : List Change) :
    (t.afterChanges changes).IsDisjoint := by
  induction changes generalizing t with
  | nil => exact h
  | cons c changes ih => exact ih (isDisjoint_change h c)

/-- In a table that began empty the installed regions are disjoint. A look-up finds the one
region that contains the pc, as a search through all of them would. An insertion is refused,
and changes nothing, exactly if a region with another start address is in its way, and
otherwise it replaces the region with the same start address. -/
theorem disjoint_and_exact_of_changes (changes : List Change) :
    let t := empty.afterChanges changes
    t.regions.Pairwise CodeRegion.Precedes ∧
      (∀ pc, t.find? pc = t.regions.find? (·.contains pc) ∧
        (∀ r, t.find? pc = some r ↔ r ∈ t.regions ∧ r.contains pc = true) ∧
          (t.find? pc = none ↔ ∀ r ∈ t.regions, r.contains pc = false)) ∧
        ∀ r, (t.insert r = .error (.overlappingCode r.start) ↔ t.Obstructs r) ∧
          (t.Obstructs r → t.change (.insert r) = t) ∧
            (¬ t.Obstructs r → ∃ old u, t.insert r = .ok (old, u) ∧
              t.change (.insert r) = u ∧ t.Installs r old u) := by
  intro t
  have h : t.IsDisjoint := isDisjoint_of_changes isDisjoint_empty changes
  refine ⟨h, fun pc => ⟨find?_eq_find?_regions h pc, fun r => find?_eq_some_iff h, ?_⟩, ?_⟩
  · rw [find?_eq_find?_regions h, List.find?_eq_none]
    simp only [Bool.not_eq_true]
  · intro r
    rw [change, insert_eq, ← overlaps_eq_true_iff h]
    cases t.overlaps r with
    | true => simp
    | false => exact ⟨by simp, by simp, fun _ => ⟨_, _, rfl, rfl, installs_withRegion h r⟩⟩

end CodeTable

end StackWalk
