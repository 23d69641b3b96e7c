import StackWalk.Continuation

/-!
# Mounted continuations in order

Continuations are mounted and forgotten in any order, and several may have the same entry.
Whatever the calls were, the list ascends, it holds what was pushed and has not been handed out,
and of the continuations with the same entry the latest comes first (`keeps_call`,
`keeps_afterCalls`).

Both look-ups answer the first continuation that suits them. In a list of this order it is the
innermost one around a stack pointer (`Keeps.containing?_eq_some_iff`), or the latest one with an
entry (`Keeps.pop_fst_eq_some_iff`). A push relies on the order as well: those below the new
entry stand in front of all others, so there is one place for it, however it is looked for
(`exists_place`, `push_mounted`).
-/

set_option autoImplicit false

namespace StackWalk

/-- Calls that change which continuations are mounted. -/
inductive ContinuationCall where
  | push (c : Continuation)
  | pop (entrySp : Word)
  deriving DecidableEq, Repr

namespace ContinuationCall

/-- The continuation that the call mounts. -/
def pushed? : ContinuationCall → Option Continuation
  | push c => some c
  | pop _ => none

/-- The continuations that are held after the call if `held` were before it. The latest one is
the first. -/
def after (held : List Continuation) : ContinuationCall → List Continuation
  | push c => c :: held
  | pop entrySp => held.eraseP (·.entrySp = entrySp)

/-- The continuations that are held after the calls, the latest one first. -/
def held (calls : List ContinuationCall) : List Continuation := calls.foldl after []

end ContinuationCall

namespace Continuation

/-- Among the continuations `held`, the latest one first, `c` is the latest one entered at
`entrySp`. The `others` are those besides it. -/
def IsLatestAt (c : Continuation) (entrySp : Word) (held others : List Continuation) : Prop :=
  ∃ later earlier, held = later ++ c :: earlier ∧ others = later ++ earlier ∧
    c.entrySp = entrySp ∧ ∀ d ∈ later, d.entrySp ≠ entrySp

/-- Among the continuations `held`, the latest one first, none that contains the stack pointer
has a lower entry than `c`, and none with its entry is later. -/
structure IsInnermostAround (c : Continuation) (sp : Word) (held : List Continuation) : Prop where
  around : sp < c.entrySp
  least : ∀ d ∈ held, sp < d.entrySp → c.entrySp ≤ d.entrySp
  latest : ∃ others, c.IsLatestAt c.entrySp held others

end Continuation

/-! ## Continuations with the same entry -/

section Ties

variable {l held others : List Continuation} {c d : Continuation} {e x : Word}

/-- Those entered at `e`, in the order of the list. -/
def entriesAt (e : Word) (l : List Continuation) : List Continuation :=
  l.filter (·.entrySp = e)

theorem entriesAt_append (e : Word) (l m : List Continuation) :
    entriesAt e (l ++ m) = entriesAt e l ++ entriesAt e m := List.filter_append l m

theorem entriesAt_cons_self (c : Continuation) (l : List Continuation) :
    entriesAt c.entrySp (c :: l) = c :: entriesAt c.entrySp l := by
  simp [entriesAt]

theorem entriesAt_cons_of_ne (h : c.entrySp ≠ e) (l : List Continuation) :
    entriesAt e (c :: l) = entriesAt e l := by
  simp [entriesAt, h]

theorem entriesAt_eq_nil (h : ∀ d ∈ l, d.entrySp ≠ e) : entriesAt e l = [] := by
  simpa [entriesAt] using h

/-- To take away the first continuation entered at `e` leaves those with another entry alone. -/
theorem entriesAt_eraseP (e x : Word) (l : List Continuation) :
    entriesAt x (l.eraseP (·.entrySp = e)) =
      if x = e then (entriesAt x l).tail else entriesAt x l := by
  induction l with
  | nil => simp [entriesAt]
  | cons c l ih =>
      by_cases here : c.entrySp = e
      · subst here
        rw [List.eraseP_cons_of_pos (by simp)]
        by_cases same : x = c.entrySp
        · rw [if_pos same, same, entriesAt_cons_self, List.tail_cons]
        · rw [if_neg same, entriesAt_cons_of_ne (Ne.symm same)]
      · rw [List.eraseP_cons_of_neg (by simp [here])]
        by_cases same : c.entrySp = x
        · subst same
          rw [if_neg here] at ih ⊢
          rw [entriesAt_cons_self, entriesAt_cons_self, ih]
        · rw [entriesAt_cons_of_ne same, entriesAt_cons_of_ne same, ih]

/-- Two lists that agree on each entry hold the same continuations, equally often. -/
theorem perm_of_entriesAt {m : List Continuation} (h : ∀ e, entriesAt e l = entriesAt e m) :
    l.Perm m := by
  have count : ∀ l : List Continuation, ∀ c, l.count c = (entriesAt c.entrySp l).count c := by
    intro l c
    rw [entriesAt, List.count_filter (by simp)]
  rw [List.perm_iff_count]
  intro c
  rw [count l c, count m c, h]

/-- The first continuation entered at `e` is the one that a search finds. -/
theorem head?_entriesAt (e : Word) (l : List Continuation) :
    (entriesAt e l).head? = l.find? (·.entrySp = e) := List.head?_filter ..

theorem eraseP_entrySp_cons (c : Continuation) (l : List Continuation) :
    (c :: l).eraseP (·.entrySp = c.entrySp) = l := List.eraseP_cons_of_pos (by simp)

/-- The latest continuation entered at `e` is the one that a search finds, and taking away the
first one takes it away. -/
theorem isLatestAt_iff :
    c.IsLatestAt e l others ↔
      l.find? (·.entrySp = e) = some c ∧ others = l.eraseP (·.entrySp = e) := by
  constructor
  · rintro ⟨later, earlier, rfl, rfl, rfl, elsewhere⟩
    constructor
    · rw [List.find?_eq_some_iff_append]
      exact ⟨decide_eq_true rfl, later, earlier, rfl, by simpa using elsewhere⟩
    · rw [List.eraseP_append_right _ (by simpa using elsewhere), eraseP_entrySp_cons]
  · rintro ⟨found, rfl⟩
    obtain ⟨here, later, earlier, rfl, elsewhere⟩ := List.find?_eq_some_iff_append.1 found
    obtain rfl := of_decide_eq_true here
    have elsewhere : ∀ d ∈ later, d.entrySp ≠ c.entrySp := by simpa using elsewhere
    refine ⟨later, earlier, rfl, ?_, rfl, elsewhere⟩
    rw [List.eraseP_append_right _ (by simpa using elsewhere), eraseP_entrySp_cons]

end Ties

namespace ContinuationList

variable {cs : ContinuationList} {held others : List Continuation} {c : Continuation}
  {e sp : Word}

/-- The list holds the continuations `held`, of which the latest is the first, in their order: it
ascends, and those with the same entry stand in it as they do in `held`. -/
structure Keeps (cs : ContinuationList) (held : List Continuation) : Prop where
  ascends : cs.mounted.Pairwise (·.entrySp ≤ ·.entrySp)
  ties : ∀ e, entriesAt e cs.mounted = entriesAt e held

theorem Keeps.perm (h : cs.Keeps held) : cs.mounted.Perm held := perm_of_entriesAt h.ties

theorem Keeps.mem_iff (h : cs.Keeps held) : c ∈ cs.mounted ↔ c ∈ held := h.perm.mem_iff

theorem Keeps.find?_entrySp (h : cs.Keeps held) (e : Word) :
    cs.mounted.find? (·.entrySp = e) = held.find? (·.entrySp = e) := by
  rw [← head?_entriesAt, ← head?_entriesAt, h.ties]

/-! ## The place of an entry -/

/-- An ascending list is parted at each entry: those below it stand in front of all others. -/
theorem exists_place (ascends : cs.mounted.Pairwise (·.entrySp ≤ ·.entrySp)) (e : Word) :
    ∃ below above, cs.mounted = below ++ above ∧ (∀ d ∈ below, d.entrySp < e) ∧
      ∀ d ∈ above, e ≤ d.entrySp := by
  generalize cs.mounted = l at ascends
  induction l with
  | nil => exact ⟨[], [], rfl, by simp, by simp⟩
  | cons c l ih =>
      rw [List.pairwise_cons] at ascends
      by_cases lt : c.entrySp < e
      · obtain ⟨below, above, rfl, hb, ha⟩ := ih ascends.2
        exact ⟨c :: below, above, rfl, by simpa [lt] using hb, ha⟩
      · have le := UInt64.not_lt.1 lt
        refine ⟨[], c :: l, rfl, by simp, ?_⟩
        intro d hd
        rcases List.mem_cons.1 hd with rfl | hd
        · exact le
        · exact UInt64.le_trans le (ascends.1 d hd)

/-- Wherever a list is parted at the entry of `c`, there `c` is put. -/
theorem push_mounted {below above : List Continuation} (parted : cs.mounted = below ++ above)
    (hb : ∀ d ∈ below, d.entrySp < c.entrySp) (ha : ∀ d ∈ above, c.entrySp ≤ d.entrySp) :
    (cs.push c).mounted = below ++ c :: above := by
  have passes : ∀ d ∈ below, decide (d.entrySp < c.entrySp) = true := by simpa using hb
  have stops : above.takeWhile (·.entrySp < c.entrySp) = [] ∧
      above.dropWhile (·.entrySp < c.entrySp) = above := by
    cases above with
    | nil => exact ⟨rfl, rfl⟩
    | cons d above =>
        have fails : ¬ decide (d.entrySp < c.entrySp) = true := by
          rw [decide_eq_true_eq]
          exact UInt64.not_lt.2 (ha d (by simp))
        exact ⟨List.takeWhile_cons_of_neg fails, List.dropWhile_cons_of_neg fails⟩
  show cs.mounted.takeWhile _ ++ c :: cs.mounted.dropWhile _ = _
  rw [parted, List.takeWhile_append_of_pos passes, List.dropWhile_append_of_pos passes, stops.1,
    stops.2, List.append_nil]

/-! ## Calls -/

/-- The answer of a call and the list after it. -/
def call (cs : ContinuationList) : ContinuationCall → Option Continuation × ContinuationList
  | .push c => (none, cs.push c)
  | .pop entrySp => cs.pop entrySp

/-- The list after several calls. -/
def afterCalls (cs : ContinuationList) (calls : List ContinuationCall) : ContinuationList :=
  calls.foldl (fun cs call => (cs.call call).2) cs

/-- The continuations that the calls hand out. -/
def handedOut (cs : ContinuationList) : List ContinuationCall → List Continuation
  | [] => []
  | call :: calls => (cs.call call).1.toList ++ (cs.call call).2.handedOut calls

theorem keeps_push (h : cs.Keeps held) (c : Continuation) : (cs.push c).Keeps (c :: held) := by
  obtain ⟨below, above, parted, hb, ha⟩ := exists_place h.ascends c.entrySp
  have placed := push_mounted parted hb ha
  have ascends := h.ascends
  have ties := h.ties
  rw [parted] at ascends ties
  rw [List.pairwise_append] at ascends
  constructor
  case ascends =>
    rw [placed, List.pairwise_append, List.pairwise_cons]
    refine ⟨ascends.1, ⟨ha, ascends.2.1⟩, ?_⟩
    intro d hd d' hd'
    rcases List.mem_cons.1 hd' with rfl | hd'
    · exact UInt64.le_of_lt (hb d hd)
    · exact ascends.2.2 d hd d' hd'
  case ties =>
    intro x
    rw [placed, entriesAt_append]
    by_cases same : c.entrySp = x
    -- none of those in front of `c` has its entry, so it comes before all that have
    · subst same
      have none : entriesAt c.entrySp below = [] :=
        entriesAt_eq_nil fun d hd => UInt64.ne_of_lt (hb d hd)
      rw [none, List.nil_append, entriesAt_cons_self, entriesAt_cons_self, ← ties,
        entriesAt_append, none, List.nil_append]
    · rw [entriesAt_cons_of_ne same, entriesAt_cons_of_ne same, ← entriesAt_append, ties]

theorem keeps_pop (h : cs.Keeps held) (e : Word) :
    (cs.pop e).2.Keeps (held.eraseP (·.entrySp = e)) where
  ascends := h.ascends.sublist List.eraseP_sublist
  ties := by
    intro x
    show entriesAt x (cs.mounted.eraseP (·.entrySp = e)) = _
    rw [entriesAt_eraseP, entriesAt_eraseP, h.ties]

/-- Each call keeps the order. -/
theorem keeps_call (h : cs.Keeps held) (call : ContinuationCall) :
    (cs.call call).2.Keeps (call.after held) := by
  cases call with
  | push c => exact keeps_push h c
  | pop e => exact keeps_pop h e

/-- So does any number of calls. -/
theorem keeps_foldl (h : cs.Keeps held) (calls : List ContinuationCall) :
    (cs.afterCalls calls).Keeps (calls.foldl ContinuationCall.after held) := by
  induction calls generalizing cs held with
  | nil => exact h
  | cons call calls ih => exact ih (keeps_call h call)

theorem keeps_afterCalls (barrierPc : Word) (calls : List ContinuationCall) :
    ((empty barrierPc).afterCalls calls).Keeps (ContinuationCall.held calls) :=
  keeps_foldl ⟨List.Pairwise.nil, fun _ => rfl⟩ calls

/-- What a call takes away it hands out, and what it brings is held. -/
theorem perm_call (cs : ContinuationList) (call : ContinuationCall) :
    ((cs.call call).2.mounted ++ (cs.call call).1.toList).Perm
      (call.pushed?.toList ++ cs.mounted) := by
  cases call with
  | push c =>
      have middle : (cs.mounted.takeWhile (·.entrySp < c.entrySp) ++
          c :: cs.mounted.dropWhile (·.entrySp < c.entrySp)).Perm
            (c :: (cs.mounted.takeWhile (·.entrySp < c.entrySp) ++
              cs.mounted.dropWhile (·.entrySp < c.entrySp))) := List.perm_middle
      rw [List.takeWhile_append_dropWhile] at middle
      show ((cs.push c).mounted ++ []).Perm (c :: cs.mounted)
      rw [List.append_nil]
      exact middle
  | pop e =>
      show (cs.mounted.eraseP (·.entrySp = e) ++
        (cs.mounted.find? (·.entrySp = e)).toList).Perm cs.mounted
      cases found : cs.mounted.find? (·.entrySp = e) with
      | none =>
          rw [List.eraseP_of_forall_not (List.find?_eq_none.1 found)]
          simp
      | some c =>
          obtain ⟨later, earlier, all, others, -⟩ := isLatestAt_iff.2 ⟨found, rfl⟩
          rw [others, all, List.append_assoc]
          exact (List.perm_append_singleton c earlier).append_left later

/-- Nothing is lost and nothing is doubled: what the calls bring, and what was held before, is
held or has been handed out. -/
theorem perm_afterCalls (cs : ContinuationList) (calls : List ContinuationCall) :
    ((cs.afterCalls calls).mounted ++ cs.handedOut calls).Perm
      (calls.filterMap (·.pushed?) ++ cs.mounted) := by
  induction calls generalizing cs with
  | nil => simp [afterCalls, handedOut]
  | cons call calls ih =>
      let rest := (cs.call call).2
      let handed := (cs.call call).1.toList
      have brought : (call :: calls).filterMap (·.pushed?) =
          call.pushed?.toList ++ calls.filterMap (·.pushed?) := by
        cases call <;> rfl
      rw [brought]
      calc
        List.Perm ((rest.afterCalls calls).mounted ++ (handed ++ rest.handedOut calls))
            ((rest.afterCalls calls).mounted ++ rest.handedOut calls ++ handed) := by
          rw [List.append_assoc]
          exact List.perm_append_comm.append_left _
        List.Perm _ (calls.filterMap (·.pushed?) ++ rest.mounted ++ handed) :=
          (ih rest).append_right handed
        List.Perm _ (calls.filterMap (·.pushed?) ++ (call.pushed?.toList ++ cs.mounted)) := by
          rw [List.append_assoc]
          exact (perm_call cs call).append_left _
        List.Perm _ (call.pushed?.toList ++ calls.filterMap (·.pushed?) ++ cs.mounted) := by
          rw [← List.append_assoc]
          exact List.perm_append_comm.append_right _

/-! ## Answers -/

/-- The innermost continuation is the first that lies above the stack pointer. -/
theorem Keeps.isInnermostAround (h : cs.Keeps held) (found : cs.containing? sp = some c) :
    c.IsInnermostAround sp held := by
  obtain ⟨around, inner, outer, parted, fails⟩ := List.find?_eq_some_iff_append.1 found
  have around := of_decide_eq_true around
  have below : ∀ d ∈ inner, d.entrySp ≤ sp := by simpa using fails
  have ascends := h.ascends
  rw [parted, List.pairwise_append, List.pairwise_cons] at ascends
  constructor
  case around => exact around
  case least =>
    intro d hd contains
    rw [← h.mem_iff, parted, List.mem_append, List.mem_cons] at hd
    rcases hd with hd | rfl | hd
    · exact absurd contains (UInt64.not_lt.2 (below d hd))
    · exact UInt64.le_refl _
    · exact ascends.2.1.1 d hd
  case latest =>
    -- those in front of it end below the stack pointer, so none of them has its entry
    have first : cs.mounted.find? (·.entrySp = c.entrySp) = some c := by
      rw [List.find?_eq_some_iff_append]
      refine ⟨decide_eq_true rfl, inner, outer, parted, fun d hd => ?_⟩
      have lt := UInt64.lt_of_le_of_lt (below d hd) around
      simpa using UInt64.ne_of_lt lt
    rw [h.find?_entrySp] at first
    exact ⟨_, isLatestAt_iff.2 ⟨first, rfl⟩⟩

/-- There is no other innermost continuation. -/
theorem eq_of_isInnermostAround {d : Continuation} (hc : c.IsInnermostAround sp held)
    (hd : d.IsInnermostAround sp held) : c = d := by
  obtain ⟨_, hc'⟩ := hc.latest
  obtain ⟨_, hd'⟩ := hd.latest
  have memc := List.mem_of_find?_eq_some (isLatestAt_iff.1 hc').1
  have memd := List.mem_of_find?_eq_some (isLatestAt_iff.1 hd').1
  have same : c.entrySp = d.entrySp :=
    UInt64.le_antisymm (hc.least d memd hd.around) (hd.least c memc hc.around)
  have found := (isLatestAt_iff.1 hc').1
  rw [same, (isLatestAt_iff.1 hd').1] at found
  exact (Option.some.inj found).symm

theorem Keeps.containing?_eq_none_iff (h : cs.Keeps held) :
    cs.containing? sp = none ↔ ∀ d ∈ held, d.entrySp ≤ sp := by
  rw [containing?, List.find?_eq_none]
  simp only [h.mem_iff, decide_eq_true_eq, UInt64.not_lt]

theorem Keeps.containing?_eq_some_iff (h : cs.Keeps held) :
    cs.containing? sp = some c ↔ c.IsInnermostAround sp held := by
  refine ⟨h.isInnermostAround, fun innermost => ?_⟩
  cases found : cs.containing? sp with
  | none =>
      obtain ⟨_, latest⟩ := innermost.latest
      have mem := List.mem_of_find?_eq_some (isLatestAt_iff.1 latest).1
      exact absurd innermost.around
        (UInt64.not_lt.2 (h.containing?_eq_none_iff.1 found c mem))
  | some d => rw [eq_of_isInnermostAround innermost (h.isInnermostAround found)]

theorem Keeps.pop_fst_eq_some_iff (h : cs.Keeps held) :
    (cs.pop e).1 = some c ↔ ∃ others, c.IsLatestAt e held others := by
  show cs.mounted.find? _ = some c ↔ _
  simp [h.find?_entrySp, isLatestAt_iff]

theorem Keeps.pop_fst_eq_none_iff (h : cs.Keeps held) :
    (cs.pop e).1 = none ↔ ∀ d ∈ held, d.entrySp ≠ e := by
  show cs.mounted.find? _ = none ↔ _
  simp [h.find?_entrySp]

/-- A continuation that is not there cannot be taken away. -/
theorem pop_snd_of_none (h : (cs.pop e).1 = none) : (cs.pop e).2 = cs := by
  have absent := List.find?_eq_none.1 h
  show { cs with mounted := cs.mounted.eraseP (·.entrySp = e) } = cs
  rw [List.eraseP_of_forall_not absent]

/-- After any calls on an empty list, it ascends, and it holds what the calls brought and have not
handed out. A stack pointer is looked for among those that are held and answered with the
innermost one around it. A pop answers the latest one with its entry and takes away that one, and
without one it changes nothing. A push puts the new one behind all those below it and in front of
all others. -/
theorem ascending_and_latest_of_calls (barrierPc : Word) (calls : List ContinuationCall) :
    let cs := (empty barrierPc).afterCalls calls
    let held := ContinuationCall.held calls
    cs.mounted.Pairwise (·.entrySp ≤ ·.entrySp) ∧
      (cs.mounted.Perm held ∧
        (cs.mounted ++ (empty barrierPc).handedOut calls).Perm
          (calls.filterMap (·.pushed?))) ∧
      (∀ sp, (∀ c, cs.containing? sp = some c ↔ c.IsInnermostAround sp held) ∧
        (cs.containing? sp = none ↔ ∀ c ∈ held, c.entrySp ≤ sp)) ∧
      (∀ e, (∀ c, (cs.pop e).1 = some c ↔ ∃ others, c.IsLatestAt e held others) ∧
        (∀ (c : Continuation) others, c.IsLatestAt e held others → (cs.pop e).2.Keeps others) ∧
          ((cs.pop e).1 = none ↔ ∀ c ∈ held, c.entrySp ≠ e) ∧
            ((cs.pop e).1 = none → (cs.pop e).2 = cs)) ∧
      ∀ c, ∃ below above, cs.mounted = below ++ above ∧ (∀ d ∈ below, d.entrySp < c.entrySp) ∧
        (∀ d ∈ above, c.entrySp ≤ d.entrySp) ∧ (cs.push c).mounted = below ++ c :: above := by
  intro cs held
  have h : cs.Keeps held := keeps_afterCalls barrierPc calls
  refine ⟨h.ascends, ⟨h.perm, ?_⟩, ?_, ?_, ?_⟩
  · have all := perm_afterCalls (empty barrierPc) calls
    rw [empty, List.append_nil] at all
    exact all
  · intro sp
    exact ⟨fun c => h.containing?_eq_some_iff, h.containing?_eq_none_iff⟩
  · intro e
    refine ⟨fun c => h.pop_fst_eq_some_iff, ?_, h.pop_fst_eq_none_iff, pop_snd_of_none⟩
    intro c others latest
    rw [(isLatestAt_iff.1 latest).2]
    exact keeps_pop h e
  · intro c
    obtain ⟨below, above, parted, hb, ha⟩ := exists_place h.ascends c.entrySp
    exact ⟨below, above, parted, hb, ha, push_mounted parted hb ha⟩

/-- Of two continuations with one entry the later one is found, and forgotten, first. -/
example :
    let calls : List ContinuationCall :=
      [.push ⟨0x9000, 1, none⟩, .push ⟨0x8800, 2, none⟩, .push ⟨0x9000, 3, none⟩, .pop 0x8800]
    let cs := (empty 0x7700).afterCalls calls
    cs.containing? 0x8700 = some ⟨0x9000, 3, none⟩ ∧
      (cs.pop 0x9000).2.mounted = [⟨0x9000, 1, none⟩] := by decide

end ContinuationList

end StackWalk
