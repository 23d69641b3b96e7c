import StackWalk.Proofs.Frame.Record
import StackWalk.Proofs.Safety.Managed
import StackWalk.Proofs.Walk.Step

/-!
# Well-formed stacks are walked to their end

A call chain is a list of frames that lie on a stack as code lays them out: each interpreted
or compiled frame holds the registers of the next one where its kind keeps them, each frame
after the youngest is one that may call, and the last one is the first entry frame of its
thread. The safety check accepts each frame of a call chain but the last, and the caller it
leads to is the next frame, register by register (`verdict_of_call`, `caller_of_call`). By
induction along the chain a walk yields exactly its frames, up to the greatest depth
(`framesFrom_of_callChain`).
-/

set_option autoImplicit false

namespace StackWalk

open Inspection

namespace Frame

/-- The frame is the one that its registers describe, and its stack pointers are in order. -/
structure IsPlaced (f : Frame) (ctx : WalkContext) (v : StackView) : Prop where
  built : f = ctx.frameOn v f.sp f.unextendedSp f.fp f.rawPc
  extended : f.sp ≤ f.unextendedSp
  bounded : f.unextendedSp ≤ v.bounds.base
  below : f.sp < v.bounds.base

/-- There is room for the fixed record of an interpreted frame below `fp`, and for the saved
frame pointer and the return address at `fp`. -/
structure HasRecord (f : Frame) (b : StackBounds) : Prop where
  spAligned : f.sp.isAligned = true
  fpAligned : f.fp.isAligned = true
  room : f.sp.toNat + 72 ≤ f.fp.toNat
  inside : f.fp.toNat + 16 ≤ b.base.toNat

/-- The managed frame `f` holds the registers of `g` where its kind of frame keeps those of
the caller. -/
inductive ReturnsTo (ctx : WalkContext) (v : StackView) (f g : Frame) : Prop
  | interpreted {r : CodeRegion} (code : f.region = some r) (interpreter : r.isInterpreter = true)
      (inside : r.contains f.rawPc = true) (record : f.HasRecord v.bounds)
      (link : v.readAt? f.fp 0 = some g.fp) (returns : v.readAt? f.fp 1 = some g.rawPc)
      (unextended : v.readAt? f.fp (-1) = some g.unextendedSp)
      (above : f.fp.offset? 2 = some g.sp)
  | compiled {r : CodeRegion} (kind : f.kind = .compiled) (code : f.region = some r)
      (complete : r.isCompleteAt f.rawPc = true) (framed : 0 < r.frameSize)
      (above : f.unextendedSp.offset? r.frameSize = some g.sp)
      (unextended : g.unextendedSp = g.sp) (returns : v.readAt? g.sp (-1) = some g.rawPc)
      (link : v.readAt? g.sp (-2) = some g.fp)

/-- The frame `g` is one that may have called managed code. -/
inductive IsCaller (ctx : WalkContext) (v : StackView) (g : Frame) : Prop
  | interpreted {r : CodeRegion} {m : Method} {method bytecode cache locals : Word}
      (code : g.region = some r) (interpreter : r.isInterpreter = true)
      (record : g.HasRecord v.bounds) (methodAt : v.readAt? g.fp (-3) = some method)
      (known : ctx.metadata.method? method = some m)
      (bytecodeAt : v.readAt? g.fp (-8) = some bytecode)
      (indexed : (m.indexOf? bytecode).isSome = true)
      (cacheAt : v.readAt? g.fp (-6) = some cache)
      (valid : ctx.metadata.isMetadata cache = true)
      (localsAt : v.readAt? g.fp (-7) = some locals)
      (localsAbove : g.fp ≤ locals) (localsBounded : locals ≤ v.bounds.base)
      (size : (g.fp.toNat - g.unextendedSp.toNat) / 8 ≤
        8 * m.maxStack.toNat + ctx.config.slackWords.toNat)
  | compiled {r : CodeRegion} (code : g.region = some r) (compiled : r.isCompiled = true)
      (alive : r.isAlive = true) (inside : r.contains g.rawPc = true) (nonzero : g.rawPc ≠ 0)
      (framed : 0 < r.frameSize) (ordinary : r.isIntrinsic = false)
      (settled : r.isDeoptPc g.rawPc = false)
  | entry {r : CodeRegion} {wrapper : Word} (code : g.region = some r)
      (callStub : r.isCallStub = true) (alive : r.isAlive = true)
      (inside : r.contains g.rawPc = true) (nonzero : g.rawPc ≠ 0) (above : g.sp < g.fp)
      (below : g.fp < v.bounds.base)
      (stored : g.callWrapper? ctx.layout v = some wrapper) (wrapperAbove : g.fp < wrapper)
      (wrapperBelow : wrapper < v.bounds.base)

end Frame

/-- Frames on a stack, from the youngest one to the first entry frame of the thread. No
return address among them is the return barrier. -/
inductive IsCallChain (ctx : WalkContext) (v : StackView) : List Frame → Prop
  | first {f : Frame} (placed : f.IsPlaced ctx v) (kind : f.kind = .entry)
      (first : f.isFirstEntry ctx.layout v = true) : IsCallChain ctx v [f]
  | call {f g : Frame} {fs : List Frame} (placed : f.IsPlaced ctx v)
      (returns : f.ReturnsTo ctx v g) (caller : g.IsCaller ctx v)
      (free : ctx.isBarrier g.rawPc = false) (rest : IsCallChain ctx v (g :: fs)) :
      IsCallChain ctx v (f :: g :: fs)

namespace Frame

variable {f g : Frame} {ctx : WalkContext} {v : StackView}

/-- The registers of a frame, as a candidate for a caller. -/
def asCandidate (g : Frame) : CallerCandidate := ⟨g.sp, g.unextendedSp, g.rawPc, g.fp⟩

theorem IsPlaced.frame_asCandidate (h : g.IsPlaced ctx v) : g.asCandidate.frame ctx v = g :=
  h.built.symm

theorem IsPlaced.kind_eq (h : f.IsPlaced ctx v) : f.kind = .ofRegion f.region := by
  rw [h.built]
  rfl

theorem IsPlaced.kind_of_isInterpreter {r : CodeRegion} (h : f.IsPlaced ctx v)
    (code : f.region = some r) (interpreter : r.isInterpreter = true) :
    f.kind = .interpreted := by
  rw [h.kind_eq, code]
  exact FrameKind.ofRegion_of_isInterpreter interpreter

theorem HasRecord.sp_lt {b : StackBounds} (h : g.HasRecord b) : g.sp < g.fp := by
  have := h.room
  exact UInt64.lt_iff_toNat_lt.2 (by omega)

theorem HasRecord.fp_lt {b : StackBounds} (h : g.HasRecord b) : g.fp < b.base := by
  have := h.inside
  exact UInt64.lt_iff_toNat_lt.2 (by omega)

theorem HasRecord.hasRecordRoom {b : StackBounds} (h : g.HasRecord b) (pos : g.sp ≠ 0) :
    g.hasRecordRoom = true :=
  hasRecordRoom_iff.2
    ⟨Word.ne_zero_of_lt h.sp_lt, h.fpAligned, pos, h.spAligned, h.room⟩

/-- A frame of a call chain that may call is accepted as a caller. -/
theorem IsCaller.isAccepted (h : g.IsCaller ctx v) (placed : g.IsPlaced ctx v) (pos : g.sp ≠ 0) :
    g.asCandidate.IsAccepted ctx v := by
  have hregion : ctx.code g.rawPc = g.region := by
    rw [placed.built]
    rfl
  cases h with
  | @interpreted r m method bytecode cache locals code interpreter record methodAt known
      bytecodeAt indexed cacheAt valid localsAt localsAbove localsBounded size =>
      have above := StackBounds.isAbove_iff.2 ⟨record.fp_lt, record.sp_lt⟩
      refine .interpreter (hregion.trans code) interpreter above ?_
      rw [placed.frame_asCandidate]
      have hk : g.isInterpreted = true :=
        decide_eq_true (placed.kind_of_isInterpreter code interpreter)
      have fits : g.recordFits ctx v m = true := by
        have localsFrom := StackBounds.isFrom_iff.2 ⟨localsBounded, localsAbove⟩
        simp [recordFits, slotWord?, InterpreterSlot.offset, recordWords_le_iff.2 size,
          bytecodeAt, indexed, cacheAt, valid, localsAt, localsFrom]
      simp [isPlausible, hk, record.hasRecordRoom pos, slotWord?, InterpreterSlot.offset, methodAt,
        known, fits]
  | compiled code compiled alive inside nonzero framed ordinary settled =>
      exact .compiled (hregion.trans code) compiled alive inside nonzero framed ordinary settled
  | entry code callStub alive inside nonzero above below stored wrapperAbove wrapperBelow =>
      refine .callStub (hregion.trans code) callStub alive inside nonzero
        (StackBounds.isAbove_iff.2 ⟨below, above⟩) ?_
        (StackBounds.isAbove_iff.2 ⟨wrapperBelow, wrapperAbove⟩)
      rw [placed.frame_asCandidate]
      exact stored

/-! ## One call -/

theorem ReturnsTo.sp_lt (h : f.ReturnsTo ctx v g) (placed : f.IsPlaced ctx v) : f.sp < g.sp := by
  cases h with
  | interpreted _ _ _ record _ _ _ above =>
      exact UInt64.lt_trans record.sp_lt (Word.lt_of_offset? above (by decide))
  | compiled _ _ _ framed above =>
      exact UInt64.lt_of_le_of_lt placed.extended (Word.lt_of_offset? above framed)

/-- A frame that returns to another one is not the first of its thread. -/
theorem ReturnsTo.not_isFirst (h : f.ReturnsTo ctx v g) (placed : f.IsPlaced ctx v)
    (layout : EntryLayout) : f.isFirst layout v = false := by
  cases h with
  | interpreted code interpreter =>
      rw [isFirst, placed.kind_of_isInterpreter code interpreter]
  | compiled kind => rw [isFirst, kind]

theorem HasRecord.framePointerIsSafe {b : StackBounds} (h : f.HasRecord b)
    (valid : b.isValid = true) (floor : b.floor ≤ f.sp) : f.framePointerIsSafe b = true := by
  have inside := h.inside
  have small := UInt64.toNat_lt b.base
  have above := UInt64.lt_iff_toNat_lt.1 h.sp_lt
  have bottom := UInt64.le_iff_toNat_le.1 floor
  obtain ⟨slot, returns, place⟩ :=
    Word.exists_offset? (a := f.fp) (k := FrameSlot.returnAddress) (by decide)
      (by rw [FrameSlot.returnAddress]; omega)
  rw [FrameSlot.returnAddress] at place
  refine framePointerIsSafe_iff.2 ⟨h.sp_lt, h.fp_lt, slot, returns, ?_⟩
  refine StackBounds.coversValid_iff.2 ⟨valid, ?_, ?_⟩
  · rw [UInt64.lt_iff_toNat_lt]
    omega
  · rw [UInt64.le_iff_toNat_le]
    omega

/-- The safety check accepts a frame of a call chain that returns to another one. -/
theorem verdict_of_call (valid : v.bounds.isValid = true) (usable : v.bounds.usableFloor ≤ f.sp)
    (hf : f.IsPlaced ctx v) (hg : g.IsPlaced ctx v) (returns : f.ReturnsTo ctx v g)
    (caller : g.IsCaller ctx v) (free : ctx.isBarrier g.rawPc = false) :
    f.verdict ctx v = true := by
  have safe : f.stackPointersAreSafe v.bounds = true :=
    stackPointersAreSafe_iff.2 ⟨valid, usable, hf.below, hf.extended, hf.bounded⟩
  have ascends := returns.sp_lt hf
  have floor : v.bounds.floor ≤ f.sp := UInt64.le_trans v.bounds.floor_le_usableFloor usable
  have accepted := caller.isAccepted hg (Word.ne_zero_of_lt ascends)
  -- no barrier, so what is judged is what was read
  have judged : g.asCandidate.behind ctx f v = g.asCandidate :=
    CallerCandidate.behind_of_not_isBarrier free
  rw [← judged] at accepted
  cases returns with
  | @interpreted r code interpreter inside record link returns unextended above =>
      have kind := hf.kind_of_isInterpreter code interpreter
      have settled : f.pcIsSettled r = true := by
        simp [pcIsSettled, CodeRegion.isInterpreter_iff.1 interpreter, CodeKind.tracksCompletion,
          inside]
      exact (verdict_interpreted_iff code kind).2 ⟨safe, settled,
        record.framePointerIsSafe valid floor, g.asCandidate,
        interpretedCandidate?_eq_some_iff.2 ⟨returns, above, unextended, link⟩, accepted⟩
  | @compiled r kind code complete framed above unextended returns link =>
      have settled : f.pcIsSettled r = true := by
        simp [pcIsSettled, complete, CodeRegion.contains_of_isCompleteAt complete]
      have covered : v.bounds.coversValid g.sp = true :=
        StackBounds.coversValid_iff.2 ⟨valid, hg.below,
          UInt64.le_trans floor (UInt64.le_of_lt ascends)⟩
      exact (verdict_compiled_iff code kind).2 ⟨safe, settled, g.asCandidate,
        compiledCandidate?_eq_some_iff.2 ⟨framed, above, covered, returns, link, unextended⟩,
        accepted⟩

/-- The caller of a frame of a call chain is the next frame. -/
theorem caller_of_call (hf : f.IsPlaced ctx v) (hg : g.IsPlaced ctx v)
    (returns : f.ReturnsTo ctx v g) (free : ctx.isBarrier g.rawPc = false)
    (options : WalkOptions) : (f.caller ctx options).ending v = (.ok g, v) := by
  cases returns with
  | @interpreted r code interpreter inside record link returns unextended above =>
      have kind := hf.kind_of_isInterpreter code interpreter
      have hc : f.interpretedCandidate? v = some g.asCandidate :=
        interpretedCandidate?_eq_some_iff.2 ⟨returns, above, unextended, link⟩
      rw [caller_ending_of_interpreted kind hc ctx options fun _ => free]
      show (Except.ok (ctx.frameOn v g.sp (ctx.crossing f v g.rawPc g.unextendedSp).2 g.fp
        (ctx.crossing f v g.rawPc g.unextendedSp).1), v) = _
      rw [ctx.crossing_of_not_isBarrier free]
      show (Except.ok (ctx.frameOn v g.sp g.unextendedSp g.fp g.rawPc), v) = (Except.ok g, v)
      rw [← hg.built]
  | @compiled r kind code complete framed above unextended returns link =>
      rw [caller_ending_of_compiled kind code framed above returns link ctx options fun _ => free]
      rw [ctx.crossing_of_not_isBarrier free]
      -- a compiled frame leads to a caller that nothing has extended
      have built := hg.built
      rw [unextended] at built
      show (Except.ok (ctx.frameOn v g.sp g.sp g.fp g.rawPc), v) = (Except.ok g, v)
      rw [← built]

end Frame

/-! ## The whole chain -/

section Chain

variable {f g : Frame} {fs : List Frame} {ctx : WalkContext} {v : StackView}

theorem IsCallChain.placed (h : IsCallChain ctx v (f :: fs)) : f.IsPlaced ctx v := by
  cases h with
  | first placed => exact placed
  | call placed => exact placed

/-- At the first entry frame a walk ends. -/
theorem following_of_first (kind : f.kind = .entry) (first : f.isFirstEntry ctx.layout v = true)
    (w : Walker) (depth : Nat) : (w.following ctx depth f).ending v = (.ok none, v) := by
  have isFirst : f.isFirst ctx.layout v = true := by
    rw [Frame.isFirst, kind]
    exact first
  rw [Walker.following_ending, Walker.goesOn, isFirst]
  rfl

/-- From any other frame of a call chain it goes on to the next one. -/
theorem following_of_call (valid : v.bounds.isValid = true)
    (usable : v.bounds.usableFloor ≤ f.sp) (hf : f.IsPlaced ctx v) (hg : g.IsPlaced ctx v)
    (returns : f.ReturnsTo ctx v g) (caller : g.IsCaller ctx v)
    (free : ctx.isBarrier g.rawPc = false) (w : Walker) (depth : Nat) :
    (w.following ctx depth f).ending v = (.ok (some g), v) := by
  refine Walker.following_ending_eq_some_iff.2 ⟨?_, Frame.caller_of_call hf hg returns free _⟩
  rw [Walker.goesOn, returns.not_isFirst hf,
    Frame.verdict_of_call valid usable hf hg returns caller free]
  simp

/-- A walk that begins at the youngest frame of a call chain yields the chain. -/
theorem yields_of_callChain (valid : v.bounds.isValid = true) (chain : IsCallChain ctx v fs) :
    ∀ w : Walker, w.next = fs.head? → (∀ f ∈ fs.head?, v.bounds.usableFloor ≤ f.sp) →
      w.Yields ctx v fs := by
  -- the memory stays the same all along, so one chain serves every step
  induction chain with
  | first placed kind first =>
      intro w next _
      exact Walker.yields_cons next (following_of_first kind first w _) (Walker.yields_nil rfl)
  | @call f g fs placed returns caller free rest ih =>
      intro w next usable
      have floor := usable f rfl
      have onward := following_of_call valid floor placed rest.placed returns caller free w
        (w.depth + 1)
      apply Walker.yields_cons next onward
      apply ih (w.passed (some g)) rfl
      -- the next frame is clear of the guard zone because it lies above this one
      intro g' hg'
      cases hg'
      exact UInt64.le_trans floor (UInt64.le_of_lt (returns.sp_lt placed))

/-- A walk from the youngest frame of a call chain, with whatever options, yields exactly the
frames of the chain, or the youngest of them if there are more than the greatest depth. It
leaves the stack as it is. -/
theorem framesFrom_of_callChain (valid : v.bounds.isValid = true)
    (usable : v.bounds.usableFloor ≤ f.sp) (chain : IsCallChain ctx v (f :: fs))
    (options : WalkOptions) :
    ((framesFrom ctx f options).run v).result =
        .ok ((f :: fs).take ctx.config.maxDepth.toNat) ∧
      ((framesFrom ctx f options).run v).stack = v := by
  have youngest : ∀ f' ∈ (f :: fs).head?, v.bounds.usableFloor ≤ f'.sp := by
    intro f' hf'
    cases hf'
    exact usable
  obtain ⟨w', run⟩ := yields_of_callChain valid chain (.startAt f options false) rfl youngest
    (ctx.config.maxDepth.toNat + 1)
  -- one step more than the greatest depth is asked for, and the depth decides
  have deep : min (ctx.config.maxDepth.toNat + 1)
      (ctx.config.maxDepth.toNat - (Walker.startAt f options false).depth) =
        ctx.config.maxDepth.toNat :=
    Nat.min_eq_right (Nat.le_succ _)
  rw [deep] at run
  have ends : (framesFrom ctx f options).ending v =
      (.ok ((f :: fs).take ctx.config.maxDepth.toNat), v) := by
    rw [framesFrom, Walker.takeAll, ending_bind_ok run]
    rfl
  exact ⟨congrArg Prod.fst ends, congrArg Prod.snd ends⟩

end Chain

namespace ThreeFrames

theorem isCallChain : IsCallChain context view [youngest, middle, oldest] := by
  have last : IsCallChain context view [oldest] :=
    .first ⟨rfl, by decide, by decide, by decide⟩ rfl rfl
  refine .call ⟨rfl, by decide, by decide, by decide⟩ ?_ ?_ rfl
    (.call ⟨rfl, by decide, by decide, by decide⟩ ?_ ?_ rfl last)
  · exact .compiled rfl rfl rfl (by decide) rfl rfl rfl rfl
  · exact .interpreted rfl rfl ⟨rfl, rfl, by decide, by decide⟩ rfl rfl rfl rfl rfl rfl rfl
      (by decide) (by decide) (by decide)
  · exact .interpreted rfl rfl rfl ⟨rfl, rfl, by decide, by decide⟩ rfl rfl rfl rfl
  · exact .entry rfl rfl rfl rfl (by decide) (by decide) (by decide) rfl (by decide) (by decide)

theorem framesFrom_youngest :
    view.bounds.isValid = true ∧ view.bounds.usableFloor ≤ youngest.sp ∧
      IsCallChain context view [youngest, middle, oldest] ∧
        ((framesFrom context youngest ⟨false⟩).run view).result =
          .ok [youngest, middle, oldest] :=
  ⟨rfl, by decide, isCallChain,
    (framesFrom_of_callChain rfl (by decide) isCallChain ⟨false⟩).1⟩

end ThreeFrames

end StackWalk
