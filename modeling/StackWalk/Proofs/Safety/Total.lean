import StackWalk.Proofs.Frame.Verdict
import StackWalk.Proofs.Stack.Extent
import StackWalk.Proofs.Stack.Write
import StackWalk.ThreadImage

/-!
# The predicates always answer

A walk asks two questions about frames that nobody vouches for: may the caller be computed,
and does the frame look like one of the interpreter. Both are answered for every frame, on
every stack whose extent fits in the address space, and nothing but the counters of the
look-ups shows afterwards that they were asked (`predicates_answer`).

Sums and differences of words are guarded wherever the predicates need them, but for three:
the extent of the memory, the distance of an address from its start, and that of a bytecode
pointer from the start of the code. Here these are made operations that can trap, and no
access through a view and no bytecode index ever does (`StackView.fetch_eq`,
`Method.index_eq`). The one rule of use on the way is that of the record of an interpreted
frame; a frame of any other kind is not asked for it (`Frame.continuationSp_eq`).
-/

set_option autoImplicit false

namespace StackWalk

open Inspection

/-- What unguarded arithmetic on words can run into. -/
inductive Trap where
  /-- The sum does not fit in a word. -/
  | sum
  /-- The difference is below zero. -/
  | difference
  deriving DecidableEq, Repr

/-- Difference of two words, if it is not below zero. -/
def Word.minus (a b : Word) : Except Trap Word :=
  if b ≤ a then .ok (a - b) else .error .difference

theorem Word.minus_eq_ok_iff {a b c : Word} :
    a.minus b = .ok c ↔ b ≤ a ∧ c.toNat = a.toNat - b.toNat := by
  rw [minus]
  split
  · next h =>
    rw [Except.ok.injEq, ← UInt64.toNat_inj, UInt64.toNat_sub_of_le a b h, eq_comm]
    exact ⟨fun e => ⟨h, e⟩, And.right⟩
  · next h => exact ⟨nofun, fun e => absurd e.1 h⟩

/-! ## Accesses -/

namespace Snapshot

/-- The word at `a`, found by its distance from the start of the memory. -/
def fetch (m : Snapshot) (a : Word) : Except Trap (Option Word) :=
  match Word.ofNat? (m.low.toNat + m.block.byteSize) with
  | none => .error .sum
  | some high =>
      if a.isAligned && m.low ≤ a && a.toNat + wordBytes ≤ high.toNat then do
        let distance ← a.minus m.low
        return m.block.words[distance.toNat / wordBytes]?
      else .ok none

/-- An access to a memory whose extent fits in the address space does not trap. -/
theorem fetch_eq_of_fits {m : Snapshot}
    (fits : m.low.toNat + m.block.byteSize < 0x10000000000000000) (a : Word) :
    m.fetch a = .ok (m.block.read? (m.offsetOf a)) := by
  have start := m.low_aligned
  have size : m.block.byteSize = 8 * m.block.words.size := rfl
  rw [fetch, WordBlock.read?_eq, offsetOf]
  cases extent : Word.ofNat? (m.low.toNat + m.block.byteSize) with
  | none => exact absurd (Word.ofNat?_eq_none_iff.1 extent) (Nat.not_le.2 fits)
  | some high =>
      have top := Word.ofNat?_eq_some_iff.1 extent
      show (if (a.isAligned && m.low ≤ a && a.toNat + wordBytes ≤ high.toNat) = true
        then _ else _) = _
      split
      · next h =>
        have reached := Word.isWithin_iff.1 h
        have distance : a.minus m.low = .ok (a - m.low) :=
          if_pos (UInt64.le_iff_toNat_le.2 reached.2.1)
        have away := (Word.minus_eq_ok_iff.1 distance).2
        rw [distance, if_pos (by omega)]
        show Except.ok _ = _
        rw [wordBytes, away]
        congr 2
        omega
      · next h =>
        have missed := mt Word.isWithin_iff.2 h
        -- below the memory, between two words of it, or past its end
        split
        · rw [eq_comm, Except.ok.injEq, Array.getElem?_eq_none_iff]
          omega
        · rfl

end Snapshot

namespace StackView

/-- The word at `a`, as the memory gives it out. -/
def fetch (v : StackView) (a : Word) : Except Trap (Option Word) :=
  if v.contains a then v.memory.fetch a else .ok none

/-- The word `k` words away from `a`, as the memory gives it out. -/
def fetchAt (v : StackView) (a : Word) (k : Int) : Except Trap (Option Word) :=
  match a.offset? k with
  | none => .ok none
  | some b => v.fetch b

/-- No access through a view traps. -/
theorem fetch_eq (v : StackView) (a : Word) : v.fetch a = .ok (v.read? a) := by
  rw [fetch, read?]
  split
  · exact Snapshot.fetch_eq_of_fits v.fits a
  · rfl

theorem fetchAt_eq (v : StackView) (a : Word) (k : Int) :
    v.fetchAt a k = .ok (v.readAt? a k) := by
  rw [fetchAt, readAt?]
  cases a.offset? k with
  | none => rfl
  | some b => exact v.fetch_eq b

end StackView

namespace Method

/-- Index of the bytecode at `pointer`. -/
def index (m : Method) (pointer : Word) : Except Trap (Option Nat) :=
  if pointer = 0 ∨ pointer = m.codeBase then .ok (some 0)
  else if m.contains pointer then do
    let index ← pointer.minus m.codeBase
    return if index.toNat < 0x100000000 then some index.toNat else none
  else .ok none

/-- No bytecode index traps. -/
theorem index_eq (m : Method) (pointer : Word) : m.index pointer = .ok (m.indexOf? pointer) := by
  rw [index, indexOf?]
  split
  · rfl
  · split
    · next h =>
      rw [contains, Bool.and_eq_true, decide_eq_true_eq] at h
      have distance : pointer.minus m.codeBase = .ok (pointer - m.codeBase) := if_pos h.1
      rw [distance, ← (Word.minus_eq_ok_iff.1 distance).2]
      rfl
    · rfl

end Method

namespace Frame

/-- The test of a record for a frame of `m`, one access after the other. -/
def fittingness (f : Frame) (ctx : WalkContext) (v : StackView) (m : Method) :
    Except Trap Bool := do
  if (wordsLimit m ctx.config.slackWords).toNat < f.recordWords then return false
  match ← v.fetchAt f.fp InterpreterSlot.bytecode.offset with
  | none => return false
  | some pointer =>
      if (← m.index pointer).isNone then return false
      match ← v.fetchAt f.fp InterpreterSlot.cache.offset with
      | none => return false
      | some cache =>
          if !ctx.metadata.isMetadata cache then return false
          match ← v.fetchAt f.fp InterpreterSlot.locals.offset with
          | none => return false
          | some start => return v.bounds.isFrom f.fp start

/-- The test for a plausible frame, one access after the other. -/
def plausibility (f : Frame) (ctx : WalkContext) (v : StackView) : Except Trap Bool := do
  if !(f.isInterpreted && f.hasRecordRoom) then return false
  match ← v.fetchAt f.fp InterpreterSlot.method.offset with
  | none => return false
  | some address =>
      match ctx.metadata.method? address with
      | none => return false
      | some m => f.fittingness ctx v m

theorem fittingness_eq (f : Frame) (ctx : WalkContext) (v : StackView) (m : Method) :
    f.fittingness ctx v m = .ok (f.recordFits ctx v m) := by
  rw [fittingness, recordFits]
  simp only [StackView.fetchAt_eq, Method.index_eq, slotWord?]
  -- both sides make the same tests in the same order
  by_cases small : f.recordWords ≤ (wordsLimit m ctx.config.slackWords).toNat
  · rw [if_neg (Nat.not_lt.2 small), decide_eq_true small]
    cases v.readAt? f.fp InterpreterSlot.bytecode.offset with
    | none => rfl
    | some pointer =>
        rw [Option.any_some]
        show (if (m.indexOf? pointer).isNone then _ else _) = _
        cases m.indexOf? pointer with
        | none => rfl
        | some index =>
            cases v.readAt? f.fp InterpreterSlot.cache.offset with
            | none => rfl
            | some cache =>
                rw [Option.any_some]
                show (if !ctx.metadata.isMetadata cache then _ else _) = _
                cases ctx.metadata.isMetadata cache with
                | false => rfl
                | true => cases v.readAt? f.fp InterpreterSlot.locals.offset <;> rfl
  · rw [if_pos (Nat.not_le.1 small), decide_eq_false small]
    rfl

/-- The test for a plausible frame never traps. -/
theorem plausibility_eq (f : Frame) (ctx : WalkContext) (v : StackView) :
    f.plausibility ctx v = .ok (f.isPlausible ctx v) := by
  rw [plausibility, isPlausible, StackView.fetchAt_eq, slotWord?]
  cases f.isInterpreted && f.hasRecordRoom with
  | false => rfl
  | true =>
      cases v.readAt? f.fp InterpreterSlot.method.offset with
      | none => rfl
      | some address =>
          show (match ctx.metadata.method? address with
            | none => .ok false
            | some m => f.fittingness ctx v m) =
              Except.ok ((ctx.metadata.method? address).any (f.recordFits ctx v))
          cases ctx.metadata.method? address with
          | none => rfl
          | some m => exact f.fittingness_eq ctx v m

end Frame

/-! ## Images after a question -/

/-- A look-up is counted as a hit or as a miss, and nothing else about the table changes. -/
theorem CodeTable.countLookup_eq (t : CodeTable) (pc : Word) :
    ∃ hits misses, t.countLookup pc = { t with hits := hits, misses := misses } := by
  rw [countLookup]
  split
  · exact ⟨t.hits + 1, t.misses, rfl⟩
  · exact ⟨t.hits, t.misses + 1, rfl⟩

theorem CodeMap.countLookups_eq (m : CodeMap) (pcs : List Word) :
    ∃ hits misses, m.countLookups pcs =
      { m with table := { m.table with hits := hits, misses := misses } } := by
  rw [countLookups]
  generalize m.table = table
  induction pcs generalizing table with
  | nil => exact ⟨table.hits, table.misses, rfl⟩
  | cons pc pcs ih =>
      rw [List.foldl_cons]
      split
      · exact ih table
      · obtain ⟨hits, misses, counted⟩ := table.countLookup_eq pc
        rw [counted]
        exact ih { table with hits := hits, misses := misses }

namespace ThreadImage

/-- The image `u` differs from `t` in the counters of look-ups only. -/
def IsUndisturbed (t u : ThreadImage) : Prop :=
  ∃ hits misses, u = { t with
    code := { t.code with table := { t.code.table with hits := hits, misses := misses } } }

/-- The question, asked about the stack of the image in the surroundings `ctx`, is answered
by `b`, and the image is as it was. -/
def Answers (t : ThreadImage) (ctx : WalkContext) (question : WalkContext → Inspection Bool)
    (b : Bool) : Prop :=
  (t.inspect fun _ => question ctx).result = .ok b ∧
    t.IsUndisturbed (t.inspect fun _ => question ctx).image

variable {t : ThreadImage} {ctx : WalkContext} {v : StackView}

theorem exists_view (fits : t.memory.low.toNat + t.memory.block.byteSize < 0x10000000000000000) :
    ∃ v, StackView.ofSnapshot t.memory t.bounds = .ok v ∧ v.memory = t.memory := by
  obtain ⟨v, made, memory, -⟩ := Snapshot.exists_ofSnapshot fits t.bounds
  exact ⟨v, made, memory⟩

/-- A question that is answered on the view of the image, without a store, is answered on the
image. -/
theorem answers_of_ending {question : WalkContext → Inspection Bool} {b : Bool}
    (view : StackView.ofSnapshot t.memory t.bounds = .ok v) (same : v.memory = t.memory)
    (h : (question ctx).ending v = (.ok b, v)) : t.Answers ctx question b := by
  have result : ((question ctx).run v).result = .ok b := congrArg Prod.fst h
  have stack : ((question ctx).run v).stack = v := congrArg Prod.snd h
  have report : (t.inspect fun _ => question ctx) =
      ⟨.ok b, messages ((question ctx).run v).events,
        { t with code := t.code.countLookups (lookups ((question ctx).run v).events) }⟩ := by
    simp only [inspect, view, result, stack, same]
  rw [Answers, report]
  obtain ⟨hits, misses, counted⟩ :=
    t.code.countLookups_eq (lookups ((question ctx).run v).events)
  exact ⟨rfl, hits, misses, by rw [counted]⟩

end ThreadImage

/-- In every context both predicates answer for every frame whatsoever, and no access and no
arithmetic on the way traps. -/
theorem Frame.predicates_answer (f : Frame) (ctx : WalkContext) (t : ThreadImage)
    (fits : t.memory.low.toNat + t.memory.block.byteSize < 0x10000000000000000) :
    ∃ v, StackView.ofSnapshot t.memory t.bounds = .ok v ∧
      t.Answers ctx f.callerIsSafe (f.verdict ctx v) ∧
        t.Answers ctx (fun ctx => return f.isPlausible ctx (← stack)) (f.isPlausible ctx v) ∧
          f.plausibility ctx v = .ok (f.isPlausible ctx v) ∧
            ∀ a, v.fetch a = .ok (v.read? a) := by
  obtain ⟨v, view, same⟩ := ThreadImage.exists_view fits
  refine ⟨v, view, ?_, ?_, f.plausibility_eq ctx v, v.fetch_eq⟩
  · exact ThreadImage.answers_of_ending view same (f.callerIsSafe_ending ctx v)
  · exact ThreadImage.answers_of_ending view same (ending_bind_ok (ending_stack v))

/-! ## A frame that no context would build -/

namespace StrayFrame

/-- One word of a stack whose bounds are inverted. -/
def image : ThreadImage :=
  { ThreadImage.ofMemory ⟨0x7000, ⟨#[0x9000]⟩, rfl⟩ with bounds := ⟨0x1000, 0x9000, 0x1000⟩ }

/-- A frame of the interpreter without code, at both ends of the address space. -/
def frame : Frame where
  sp := 0
  unextendedSp := Word.highest
  fp := Word.highest
  rawPc := 0
  region := none
  kind := .interpreted
  deoptimizedPc := some 1

theorem predicates_answer_frame :
    image.memory.low.toNat + image.memory.block.byteSize < 0x10000000000000000 ∧
      ∃ v, StackView.ofSnapshot image.memory image.bounds = .ok v ∧
        image.Answers image.context frame.callerIsSafe (frame.verdict image.context v) ∧
          image.Answers image.context (fun ctx => return frame.isPlausible ctx (← stack))
              (frame.isPlausible image.context v) ∧
            frame.plausibility image.context v = .ok (frame.isPlausible image.context v) ∧
              ∀ a, v.fetch a = .ok (v.read? a) :=
  ⟨by decide, Frame.predicates_answer frame image.context image (by decide)⟩

end StrayFrame

end StackWalk
