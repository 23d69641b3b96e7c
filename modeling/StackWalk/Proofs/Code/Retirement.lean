import StackWalk.Code.Classifier
import StackWalk.Proofs.Code.Disjoint

/-!
# Retiring code

Several owners may share a region: look-ups find it, and frames keep hold of it, possibly after
it has been removed from the table. A call that moves its life forward is seen by all of them.
`SharedCode` names the regions by handles, so that what a call changes is one region and what is
seen of it follows.

Whatever calls are made, each region is afterwards the same but for its stage, which is not an
earlier one (`retiresTo_afterCalls`), and a call says whether it changed the stage
(`call_fst_iff`). Calls made through a table of disjoint regions are no exception
(`CodeMap.classify_afterAdvances`).
-/

set_option autoImplicit false

namespace StackWalk

namespace CodeRegion

/-- The region `q` is `r` at the same stage of its life or a later one. -/
structure RetiresTo (r q : CodeRegion) : Prop where
  rest : q = { r with liveness := q.liveness }
  later : r.liveness.rank ≤ q.liveness.rank

variable {r q s : CodeRegion}

theorem RetiresTo.refl (r : CodeRegion) : r.RetiresTo r := ⟨rfl, Nat.le_refl _⟩

/-- The later region written in terms of the earlier one. -/
theorem RetiresTo.exists_stage (h : r.RetiresTo q) :
    ∃ stage : Liveness, q = { r with liveness := stage } ∧ r.liveness.rank ≤ stage.rank :=
  ⟨q.liveness, h.rest, h.later⟩

theorem RetiresTo.trans (h : r.RetiresTo q) (h' : q.RetiresTo s) : r.RetiresTo s := by
  obtain ⟨_, rfl, later⟩ := h.exists_stage
  obtain ⟨_, rfl, later'⟩ := h'.exists_stage
  exact ⟨rfl, Nat.le_trans later later'⟩

/-- What is alive at last was alive before. -/
theorem RetiresTo.isAlive (h : r.RetiresTo q) (alive : q.isAlive = true) : r.isAlive = true := by
  have later := h.later
  rw [of_decide_eq_true alive] at later
  cases stage : r.liveness with
  | alive => exact decide_eq_true stage
  | zombie | unloaded =>
      rw [stage] at later
      exact absurd later (by decide)

theorem RetiresTo.contains_eq (h : r.RetiresTo q) (pc : Word) : q.contains pc = r.contains pc := by
  obtain ⟨_, rfl, -⟩ := h.exists_stage
  rfl

theorem retiresTo_advance (r : CodeRegion) (target : Liveness) :
    r.RetiresTo (r.advance target).2 := by
  refine ⟨?_, r.rank_le_rank_advance target⟩
  rw [advance]
  split <;> rfl

end CodeRegion

/-- Every address resolves to the same code as before, at the same stage of its life or a later
one, or to no code as before. -/
def Classifier.RetiresTo (code later : Classifier) : Prop :=
  ∀ pc, Option.Rel CodeRegion.RetiresTo (code pc) (later pc)

namespace Classifier.RetiresTo

variable {code later last : Classifier}

theorem refl (code : Classifier) : code.RetiresTo code := by
  intro pc
  cases code pc with
  | none => exact .none
  | some r => exact .some (.refl r)

theorem trans (h : code.RetiresTo later) (h' : later.RetiresTo last) : code.RetiresTo last := by
  intro pc
  have first := h pc
  have second := h' pc
  generalize code pc = x, later pc = y, last pc = z at first second
  cases first with
  -- no code, before and after the first step
  | none => exact second
  | some retires =>
      cases second with
      | some retires' => exact .some (retires.trans retires')

end Classifier.RetiresTo

/-! ## Calls on shared code -/

/-- A call that moves the life of a region forward. -/
inductive LivenessCall where
  | advance (target : Liveness)
  | makeZombie
  | makeUnloaded
  deriving DecidableEq, Repr

namespace LivenessCall

/-- The stage that the call asks for. -/
def target : LivenessCall → Liveness
  | advance target => target
  | makeZombie => .zombie
  | makeUnloaded => .unloaded

/-- The answer of the call, and the region afterwards. -/
def perform (c : LivenessCall) (r : CodeRegion) : Bool × CodeRegion := r.advance c.target

end LivenessCall

/-- Regions named by handles, and the handles to which addresses resolve. -/
structure SharedCode (ι : Type) where
  handle? : Word → Option ι
  region : ι → CodeRegion

namespace SharedCode

variable {ι : Type}

/-- The region of a pc as it is now. -/
def classify (code : SharedCode ι) : Classifier := fun pc => (code.handle? pc).map code.region

variable [DecidableEq ι] (code : SharedCode ι)

/-- The answer of a call on the region `i`, and all regions afterwards. -/
def call (i : ι) (c : LivenessCall) : Bool × SharedCode ι :=
  ((c.perform (code.region i)).1,
    { code with region := fun j =>
        if j = i then (c.perform (code.region i)).2 else code.region j })

/-- The regions after several calls. -/
def afterCalls (calls : List (ι × LivenessCall)) : SharedCode ι :=
  calls.foldl (fun code call => (code.call call.1 call.2).2) code

/-- A call answers whether it changed the stage of the region. -/
theorem call_fst_iff (i : ι) (c : LivenessCall) :
    (code.call i c).1 = true ↔
      ((code.call i c).2.region i).liveness ≠ (code.region i).liveness := by
  have region : (code.call i c).2.region i = (c.perform (code.region i)).2 := if_pos rfl
  rw [region]
  exact (code.region i).advance_fst_iff c.target

theorem retiresTo_call (i : ι) (c : LivenessCall) (j : ι) :
    (code.region j).RetiresTo ((code.call i c).2.region j) := by
  show (code.region j).RetiresTo (if j = i then (c.perform (code.region i)).2 else code.region j)
  split
  · next same =>
    rw [same]
    exact (code.region i).retiresTo_advance c.target
  · exact .refl _

/-- After any calls each region is the same but for its stage, which is not an earlier one. -/
theorem retiresTo_afterCalls (calls : List (ι × LivenessCall)) (j : ι) :
    (code.region j).RetiresTo ((code.afterCalls calls).region j) := by
  induction calls generalizing code with
  | nil => exact .refl _
  | cons call calls ih => exact (code.retiresTo_call call.1 call.2 j).trans (ih _)

/-- No call changes what an address resolves to. -/
theorem handle?_afterCalls (calls : List (ι × LivenessCall)) :
    (code.afterCalls calls).handle? = code.handle? := by
  induction calls generalizing code with
  | nil => rfl
  | cons call calls ih => exact ih _

/-- A holder of a region sees it retire. -/
theorem rel_afterCalls (calls : List (ι × LivenessCall)) (held : Option ι) :
    Option.Rel CodeRegion.RetiresTo (held.map code.region)
      (held.map (code.afterCalls calls).region) := by
  cases held with
  | none => exact .none
  | some i => exact .some (code.retiresTo_afterCalls calls i)

theorem classify_afterCalls (calls : List (ι × LivenessCall)) :
    code.classify.RetiresTo (code.afterCalls calls).classify := by
  intro pc
  rw [classify, classify, code.handle?_afterCalls calls]
  exact code.rel_afterCalls calls (code.handle? pc)

theorem afterCalls_append (before after : List (ι × LivenessCall)) :
    code.afterCalls (before ++ after) = (code.afterCalls before).afterCalls after :=
  List.foldl_append

end SharedCode

/-! ## Calls through a table -/

namespace CodeTable

/-- A search finds a region that has retired where it found the region before. -/
theorem find?_map_of_retiresTo {l : List CodeRegion} {g : CodeRegion → CodeRegion}
    (h : ∀ q ∈ l, q.RetiresTo (g q)) (pc : Word) :
    Option.Rel CodeRegion.RetiresTo (l.find? (·.contains pc)) ((l.map g).find? (·.contains pc)) := by
  induction l with
  | nil => exact .none
  | cons q l ih =>
      have retires := h q List.mem_cons_self
      rw [List.map_cons, List.find?_cons, List.find?_cons, retires.contains_eq]
      cases q.contains pc with
      | true => exact .some retires
      | false => exact ih fun q hq => h q (List.mem_cons_of_mem _ hq)

variable {t : CodeTable}

/-- What a table of disjoint regions finds after a call, it found before at the same stage or an
earlier one. -/
theorem find?_advance (h : t.IsDisjoint) (start : Word) (target : Liveness) :
    Classifier.RetiresTo t.find? (t.change (.advance start target)).find? := by
  intro pc
  rw [find?_eq_find?_regions h, find?_eq_find?_regions (isDisjoint_advance h start target),
    change, advance]
  cases found : t.startingAt? start with
  | none =>
      -- there is no such region, and nothing changes
      show Option.Rel _ (t.regions.find? (·.contains pc)) (t.regions.find? (·.contains pc))
      cases t.regions.find? (·.contains pc) with
      | none => exact .none
      | some r => exact .some (CodeRegion.RetiresTo.refl r)
  | some r =>
      -- no other region starts there, so only `r` moves on
      obtain ⟨mem, rfl⟩ := (startingAt?_eq_some_iff h).1 found
      apply find?_map_of_retiresTo
      intro q hq
      split
      · next same =>
        rw [eq_of_start_eq h hq mem same]
        exact r.retiresTo_advance target
      · exact .refl q

end CodeTable

namespace CodeMap

/-- The region of the first window that covers `pc`, or else that of the table. -/
theorem classify_eq (m : CodeMap) (pc : Word) :
    m.classify pc = ((m.window? pc).map (·.region)).or (m.table.find? pc) := by
  rw [classify]
  cases m.window? pc <;> rfl

/-- A call through the table is seen in the same way by those who look up code. -/
theorem classify_advance {m : CodeMap} (h : m.table.IsDisjoint) (start : Word)
    (target : Liveness) :
    m.classify.RetiresTo
      { m with table := m.table.change (.advance start target) : CodeMap }.classify := by
  intro pc
  have window : { m with table := m.table.change (.advance start target) : CodeMap }.window? pc =
      m.window? pc := rfl
  rw [classify_eq, classify_eq, window]
  cases m.window? pc with
  | none => exact CodeTable.find?_advance h start target pc
  | some w => exact .some (.refl w.region)

/-- The code after calls on the regions of the table that start at the given addresses. -/
def afterAdvances (m : CodeMap) (calls : List (Word × Liveness)) : CodeMap :=
  { m with table := m.table.afterChanges (calls.map fun c => .advance c.1 c.2) }

theorem afterAdvances_cons (m : CodeMap) (c : Word × Liveness) (calls : List (Word × Liveness)) :
    m.afterAdvances (c :: calls) = (m.afterAdvances [c]).afterAdvances calls := rfl

/-- So are any number of calls. -/
theorem classify_afterAdvances {m : CodeMap} (h : m.table.IsDisjoint)
    (calls : List (Word × Liveness)) : m.classify.RetiresTo (m.afterAdvances calls).classify := by
  induction calls generalizing m with
  | nil => exact .refl _
  | cons c calls ih =>
      -- the table is disjoint again after the first call
      have disjoint : (m.afterAdvances [c]).table.IsDisjoint :=
        CodeTable.isDisjoint_advance h c.1 c.2
      rw [afterAdvances_cons]
      exact (classify_advance h c.1 c.2).trans (ih disjoint)

end CodeMap

end StackWalk
