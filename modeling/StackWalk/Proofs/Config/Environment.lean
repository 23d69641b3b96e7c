import StackWalk.Config.Environment
import StackWalk.Proofs.Text.Grammar

/-!
# Configurations that an environment describes

An environment is accepted exactly if each of the three variables that is set has a value of its
grammar and the depth is not zero. Then the configuration has the values that the texts denote,
and the standard value wherever there is no text. If the environment is refused, the error is
about the first variable, in the order of tracing, slack and depth, whose value is not of its
grammar; that the depth is zero is said only if all three are (`ofEnvironment_iff`).

The grammar is that of `Text.IsTrimmed` and `Text.IsNumeral`: a relation between texts and
values, which the functions that read the variables decide (`Reads`).
-/

set_option autoImplicit false

namespace StackWalk.WalkConfig

variable {α β ε : Type}

/-! ## Computations that can fail -/

theorem bind_eq_ok_iff {x : Except ε α} {f : α → Except ε β} {b : β} :
    x >>= f = .ok b ↔ ∃ a, x = .ok a ∧ f a = .ok b := by
  cases x with
  | error e => exact ⟨nofun, nofun⟩
  | ok a => exact ⟨fun h => ⟨a, rfl, h⟩, fun ⟨_, h, h'⟩ => Except.ok.inj h ▸ h'⟩

/-- Two steps fail as the first one does, or as the second one does after it. -/
theorem bind_eq_error_iff {x : Except ε α} {f : α → Except ε β} {e : ε} :
    x >>= f = .error e ↔ x = .error e ∨ ∃ a, x = .ok a ∧ f a = .error e := by
  cases x with
  | error d =>
      constructor
      · intro h
        cases h
        exact Or.inl rfl
      · rintro (h | ⟨a, h, -⟩)
        · cases h
          rfl
        · cases h
  | ok a =>
      constructor
      · exact fun h => Or.inr ⟨a, rfl, h⟩
      · rintro (h | ⟨a', h, h'⟩)
        · cases h
        · cases h
          exact h'

/-! ## Values -/

/-- The words for a flag. -/
def flagWords : Bool → List String
  | true => ["1", "true", "yes", "on"]
  | false => ["0", "false", "no", "off", ""]

/-- The text is a word for the flag `b`, with any blank characters around it. -/
def DenotesFlag (text : String) (b : Bool) : Prop :=
  ∃ t, Text.IsTrimmed text.toList t ∧ String.ofList t ∈ flagWords b

/-- The text is a numeral of `n`, with any blank characters around it. -/
def DenotesNumber (text : String) (n : Nat) : Prop :=
  ∃ t, Text.IsTrimmed text.toList t ∧ Text.IsNumeral t n

/-- The text is a numeral of the word `w`. -/
def DenotesWord (text : String) (w : Word) : Prop := DenotesNumber text w.toNat

/-- The text has the form of a flag. -/
def IsFlag (text : String) : Prop := ∃ b, DenotesFlag text b

/-- The text has the form of a number, which is not too large for a word. -/
def IsWord (text : String) : Prop := ∃ n, n < 0x10000000000000000 ∧ DenotesNumber text n

/-- The function decides what a text denotes, and refuses a text that denotes nothing with the
error `refusal`. -/
structure Reads (read : String → String → Except ConfigError α) (denotes : String → α → Prop)
    (refusal : String → String → ConfigError) : Prop where
  ok : ∀ {name text x}, read name text = .ok x ↔ denotes text x
  error : ∀ {name text e}, read name text = .error e → e = refusal name text

/-- How a flag is refused: it is shown without the blank characters around it. -/
def flagRefusal (name text : String) : ConfigError :=
  .invalidValue name (String.ofList (Text.trimBlank text.toList)) "a boolean flag"

/-- How a number is refused: it is shown as it was given. -/
def numberRefusal (name text : String) : ConfigError :=
  .invalidValue name text "an unsigned integer"

/-- No word stands for both values of a flag. -/
theorem flagWords_disjoint : ∀ s ∈ flagWords true, s ∉ flagWords false := by decide

theorem flag?_eq_some_iff {s : String} {b : Bool} : flag? s = some b ↔ s ∈ flagWords b := by
  show (if s ∈ flagWords true then some true else if s ∈ flagWords false then some false
    else none) = some b ↔ _
  by_cases on : s ∈ flagWords true
  · have off := flagWords_disjoint s on
    cases b <;> simp [on, off]
  · cases b <;> simp [on]

theorem reads_flag : Reads readFlag DenotesFlag flagRefusal where
  ok := by
    intro name text b
    rw [DenotesFlag, Text.exists_isTrimmed_iff, ← flag?_eq_some_iff, readFlag]
    cases flag? (String.ofList (Text.trimBlank text.toList)) <;> simp
  error := by
    intro name text e h
    rw [readFlag] at h
    cases flag : flag? (String.ofList (Text.trimBlank text.toList)) with
    | some b => simp [flag] at h
    | none => simpa [flag, flagRefusal, eq_comm] using h

theorem reads_number :
    Reads readNumber DenotesWord numberRefusal where
  ok := by
    intro name text w
    rw [DenotesWord, DenotesNumber, Text.exists_isTrimmed_iff,
      ← Text.unsigned?_eq_some_iff_isNumeral, readNumber]
    cases Text.unsigned? (Text.trimBlank text.toList) <;> simp
  error := by
    intro name text e h
    rw [readNumber] at h
    cases number : Text.unsigned? (Text.trimBlank text.toList) with
    | some w => simp [number] at h
    | none => simpa [number, numberRefusal, eq_comm] using h

/-! ## Variables -/

variable {lookup : String → Option String} {name : String}

/-- `x` is what the text of a variable denotes, or the fallback of one that is not set. -/
def IsSetting (denotes : String → α → Prop) (fallback : α) : Option String → α → Prop
  | some text, x => denotes text x
  | none, x => x = fallback

/-- A variable has a setting if its text denotes something, and in any case if it is not set. -/
theorem exists_isSetting_iff {denotes : String → α → Prop} {fallback : α} {value : Option String} :
    (∃ x, IsSetting denotes fallback value x) ↔ ∀ text ∈ value, ∃ x, denotes text x := by
  cases value with
  | none => exact ⟨fun _ => nofun, fun _ => ⟨fallback, rfl⟩⟩
  | some text => exact ⟨fun h _ e => Option.some.inj e ▸ h, fun h => h text rfl⟩

section Override

variable {read : String → String → Except ConfigError α} {denotes : String → α → Prop}
  {refusal : String → String → ConfigError} (reads : Reads read denotes refusal)

include reads

theorem override_eq_ok_iff {fallback x : α} :
    override lookup name read fallback = .ok x ↔
      IsSetting denotes fallback (lookup name) x := by
  rw [override]
  cases lookup name with
  | none => exact ⟨fun h => (Except.ok.inj h).symm, fun h => congrArg Except.ok h.symm⟩
  | some text => exact reads.ok

theorem override_eq_error_iff {fallback : α} {e : ConfigError} :
    override lookup name read fallback = .error e ↔
      ∃ text, lookup name = some text ∧ (¬ ∃ x, denotes text x) ∧ e = refusal name text := by
  rw [override]
  cases lookup name with
  | none => exact ⟨nofun, nofun⟩
  | some text =>
      constructor
      · intro h
        refine ⟨text, rfl, ?_, reads.error h⟩
        rintro ⟨x, denoted⟩
        cases h.symm.trans (reads.ok.2 denoted)
      · rintro ⟨text', same, refused, rfl⟩
        cases same
        show read name text = _
        cases h : read name text with
        | ok x => exact absurd ⟨x, reads.ok.1 h⟩ refused
        | error d => rw [reads.error h]

end Override

/-! ## Configurations -/

/-- The configuration that the environment describes: each variable that is set says what its
field is, and all else is standard. -/
structure Describes (lookup : String → Option String) (c : WalkConfig) : Prop where
  trace : IsSetting DenotesFlag standard.tracePatching (lookup tracePatchingVariable)
    c.tracePatching
  slack : IsSetting DenotesWord standard.slackWords
    (lookup slackWordsVariable) c.slackWords
  depth : IsSetting DenotesWord standard.maxDepth
    (lookup maxDepthVariable) c.maxDepth
  depth_pos : 0 < c.maxDepth
  layout : c.layout = standard.layout
  verify : c.verifyPatched = standard.verifyPatched

/-- The values that an environment may have. -/
structure IsAccepted (lookup : String → Option String) : Prop where
  trace : ∀ text ∈ lookup tracePatchingVariable, IsFlag text
  slack : ∀ text ∈ lookup slackWordsVariable, IsWord text
  depth : ∀ text ∈ lookup maxDepthVariable, IsWord text ∧ ¬ DenotesNumber text 0

/-- Why an environment is refused: for the first variable whose value is not of its grammar, or,
if all three are, because the depth is zero. -/
inductive Refuses (lookup : String → Option String) : ConfigError → Prop where
  | trace {text : String} {t : List Char} (set : lookup tracePatchingVariable = some text)
      (refused : ¬ IsFlag text) (trimmed : Text.IsTrimmed text.toList t) :
      Refuses lookup (.invalidValue tracePatchingVariable (String.ofList t) "a boolean flag")
  | slack {text : String} (trace : ∀ text ∈ lookup tracePatchingVariable, IsFlag text)
      (set : lookup slackWordsVariable = some text) (refused : ¬ IsWord text) :
      Refuses lookup (.invalidValue slackWordsVariable text "an unsigned integer")
  | depth {text : String} (trace : ∀ text ∈ lookup tracePatchingVariable, IsFlag text)
      (slack : ∀ text ∈ lookup slackWordsVariable, IsWord text)
      (set : lookup maxDepthVariable = some text) (refused : ¬ IsWord text) :
      Refuses lookup (.invalidValue maxDepthVariable text "an unsigned integer")
  | zero {text : String} (trace : ∀ text ∈ lookup tracePatchingVariable, IsFlag text)
      (slack : ∀ text ∈ lookup slackWordsVariable, IsWord text)
      (set : lookup maxDepthVariable = some text) (zero : DenotesNumber text 0) :
      Refuses lookup (.zero "max_walk_depth")

/-- A numeral of a number that is not too large for a word is the numeral of a word. -/
theorem isWord_iff {text : String} : IsWord text ↔ ∃ w, DenotesWord text w := by
  constructor
  · rintro ⟨n, fits, denoted⟩
    exact ⟨UInt64.ofNatLT n fits, by rwa [DenotesWord, UInt64.toNat_ofNatLT]⟩
  · rintro ⟨w, denoted⟩
    exact ⟨w.toNat, UInt64.toNat_lt w, denoted⟩

theorem exists_wordSetting_iff {fallback : Word} {value : Option String} :
    (∃ w, IsSetting DenotesWord fallback value w) ↔ ∀ text ∈ value, IsWord text := by
  simp only [exists_isSetting_iff, isWord_iff]

/-- A depth of zero is in the environment, for the standard depth is not zero. -/
theorem isSetting_zero_iff {value : Option String} :
    IsSetting DenotesWord standard.maxDepth value 0 ↔
      ∃ text, value = some text ∧ DenotesNumber text 0 := by
  cases value with
  | none => exact ⟨fun (h : 0 = standard.maxDepth) => absurd h (by decide), nofun⟩
  | some text => exact ⟨fun h => ⟨text, rfl, h⟩, fun ⟨_, same, h⟩ => Option.some.inj same ▸ h⟩

theorem ofEnvironment_eq_ok_iff {c : WalkConfig} :
    ofEnvironment lookup = .ok c ↔ Describes lookup c := by
  unfold ofEnvironment
  simp only [bind_eq_ok_iff, override_eq_ok_iff reads_flag, override_eq_ok_iff reads_number,
    validate]
  constructor
  · rintro ⟨trace, ht, slack, hs, depth, hd, _, valid, described⟩
    cases described
    split at valid
    · cases valid
    · next positive => exact ⟨ht, hs, hd, UInt64.pos_iff_ne_zero.2 positive, rfl, rfl⟩
  · intro h
    refine ⟨c.tracePatching, h.trace, c.slackWords, h.slack, c.maxDepth, h.depth, (), ?_, ?_⟩
    · exact if_neg (UInt64.pos_iff_ne_zero.1 h.depth_pos)
    · rw [← h.layout, ← h.verify]
      rfl

theorem ofEnvironment_eq_error_iff {e : ConfigError} :
    ofEnvironment lookup = .error e ↔ Refuses lookup e := by
  unfold ofEnvironment
  simp only [bind_eq_error_iff, override_eq_ok_iff reads_flag, override_eq_ok_iff reads_number,
    override_eq_error_iff reads_flag, override_eq_error_iff reads_number, validate]
  constructor
  · rintro (⟨text, set, refused, rfl⟩ | ⟨b, trace, h⟩)
    · exact .trace set refused (Text.isTrimmed_trimBlank _)
    have trace := exists_isSetting_iff.1 ⟨b, trace⟩
    rcases h with ⟨text, set, refused, rfl⟩ | ⟨slackWords, slack, h⟩
    · exact .slack trace set (mt isWord_iff.1 refused)
    have slack := exists_wordSetting_iff.1 ⟨slackWords, slack⟩
    rcases h with ⟨text, set, refused, rfl⟩ | ⟨maxDepth, depth, zero | ⟨_, -, h⟩⟩
    · exact .depth trace slack set (mt isWord_iff.1 refused)
    · split at zero
      · next none =>
        cases zero
        obtain ⟨text, set, denoted⟩ := isSetting_zero_iff.1 (none ▸ depth)
        exact .zero trace slack set denoted
      · cases zero
    · cases h
  · intro h
    cases h with
    | trace set refused trimmed =>
        exact Or.inl ⟨_, set, refused, by rw [flagRefusal, trimmed.trimBlank_eq]⟩
    | slack trace set refused =>
        obtain ⟨b, trace⟩ := exists_isSetting_iff.2 trace
        exact Or.inr ⟨b, trace, Or.inl ⟨_, set, mt isWord_iff.2 refused, rfl⟩⟩
    | depth trace slack set refused =>
        obtain ⟨b, trace⟩ := exists_isSetting_iff.2 trace
        obtain ⟨slackWords, slack⟩ := exists_wordSetting_iff.2 slack
        exact Or.inr ⟨b, trace, Or.inr ⟨slackWords, slack,
          Or.inl ⟨_, set, mt isWord_iff.2 refused, rfl⟩⟩⟩
    | zero trace slack set zero =>
        obtain ⟨b, trace⟩ := exists_isSetting_iff.2 trace
        obtain ⟨slackWords, slack⟩ := exists_wordSetting_iff.2 slack
        exact Or.inr ⟨b, trace, Or.inr ⟨slackWords, slack,
          Or.inr ⟨0, isSetting_zero_iff.2 ⟨_, set, zero⟩, Or.inl rfl⟩⟩⟩

theorem exists_ofEnvironment_iff :
    (∃ c, ofEnvironment lookup = .ok c) ↔ IsAccepted lookup := by
  constructor
  · rintro ⟨c, accepted⟩
    have described := ofEnvironment_eq_ok_iff.1 accepted
    have trace := exists_isSetting_iff.1 ⟨_, described.trace⟩
    have slack := exists_wordSetting_iff.1 ⟨_, described.slack⟩
    refine ⟨trace, slack, fun text set => ⟨?_, fun zero => ?_⟩⟩
    · exact exists_wordSetting_iff.1 ⟨_, described.depth⟩ text set
    · cases accepted.symm.trans (ofEnvironment_eq_error_iff.2 (.zero trace slack set zero))
  · intro h
    cases result : ofEnvironment lookup with
    | ok c => exact ⟨c, rfl⟩
    | error e =>
        -- there is no reason to refuse it
        cases ofEnvironment_eq_error_iff.1 result with
        | trace set refused _ => exact absurd (h.trace _ set) refused
        | slack _ set refused => exact absurd (h.slack _ set) refused
        | depth _ _ set refused => exact absurd (h.depth _ set).1 refused
        | zero _ _ set zero => exact absurd zero (h.depth _ set).2

/-- An environment is accepted exactly if the values of its variables are of their grammar and
the depth is not zero. The result is the configuration that it describes, or the first reason
there is to refuse it. -/
theorem ofEnvironment_iff (lookup : String → Option String) :
    ((∃ c, ofEnvironment lookup = .ok c) ↔ IsAccepted lookup) ∧
      (∀ c, ofEnvironment lookup = .ok c ↔ Describes lookup c) ∧
        ∀ e, ofEnvironment lookup = .error e ↔ Refuses lookup e :=
  ⟨exists_ofEnvironment_iff, fun _ => ofEnvironment_eq_ok_iff, fun _ => ofEnvironment_eq_error_iff⟩

/-- Of two values that are not of their grammar the one that is read first is reported. -/
example :
    ofEnvironment (fun name =>
      if name = slackWordsVariable then some " +" else
        if name = maxDepthVariable then some "18446744073709551616" else some " on\n") =
      .error (.invalidValue slackWordsVariable " +" "an unsigned integer") := by cbv

example :
    ofEnvironment (fun name =>
      if name = slackWordsVariable then some "0018446744073709551615" else
        if name = maxDepthVariable then some "\u3000+12 " else none) =
      .ok { standard with slackWords := Word.highest, maxDepth := 12 } := by rfl

end StackWalk.WalkConfig
