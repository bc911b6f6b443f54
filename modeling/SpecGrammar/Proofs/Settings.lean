import SpecGrammar.Proofs.Workspace

/-!
# Which documents hold settings

Every entry of a settings document has a kind, and a value of another kind is refused, with one gap:
what counts as nothing (`CountsAsNothing`) passes for an empty mapping.

* `Checks`: a reading succeeds exactly under some condition, with a known result, and its errors are
  blamed on the document rightly;
* `Settings.ofData_checks`: a document holds settings exactly if it is well typed, its timeout is a
  number that can be represented and its values can be written; they are `Settings.said`;
* `Job.loadSettings_judges`: what a run makes of a settings file that can be read.
-/

namespace SpecGrammar

open Yaml Decimal

/-! ### Readings that check -/

/-- The reading succeeds exactly under a condition, and else it ends with an error that is to blame. -/
structure Checks {ε α : Type} (x : Except ε α) (p : Prop) (a : α) (blame : ε → Prop) : Prop where
  ok : p → x = .ok a
  error : ¬ p → ∃ e, x = .error e ∧ blame e

namespace Checks

variable {ε α β : Type} {x : Except ε α} {k : α → Except ε β} {p q : Prop} {a : α} {b : β}
  {blame : ε → Prop}

theorem bind (hx : Checks x p a blame) (hk : Checks (k a) q b blame) :
    Checks (x >>= k) (p ∧ q) b blame where
  ok := by
    rintro ⟨hp, hq⟩
    rw [hx.ok hp]
    exact hk.ok hq
  error := by
    intro h
    by_cases hp : p
    · rw [hx.ok hp]
      exact hk.error fun hq => h ⟨hp, hq⟩
    · obtain ⟨e, hx, he⟩ := hx.error hp
      exact ⟨e, by rw [hx]; rfl, he⟩

theorem pure (a : α) : Checks (Pure.pure a : Except ε α) True a blame :=
  ⟨fun _ => rfl, fun h => absurd trivial h⟩

theorem congr (hx : Checks x p a blame) (h : q ↔ p) : Checks x q a blame :=
  ⟨fun hq => hx.ok (h.1 hq), fun hq => hx.error fun hp => hq (h.2 hp)⟩

theorem map {b : β} {f : α → β} (hx : Checks x p a blame) (hb : f a = b) :
    Checks (x >>= fun y => Pure.pure (f y)) p b blame :=
  hb ▸ (hx.bind (pure (f a))).congr (by simp)

theorem eq_ok_iff (hx : Checks x p a blame) {b : α} : x = .ok b ↔ p ∧ b = a := by
  by_cases hp : p
  · simp [hx.ok hp, hp, eq_comm]
  · obtain ⟨e, h, -⟩ := hx.error hp
    simp [h, hp]

theorem blame_of_eq_error (hx : Checks x p a blame) {e : ε} (h : x = .error e) :
    ¬ p ∧ blame e := by
  have hp : ¬ p := fun hp => by simp [hx.ok hp] at h
  obtain ⟨e', h', he⟩ := hx.error hp
  cases h.symm.trans h'
  exact ⟨hp, he⟩

end Checks

/-! ### The kinds of values -/

/-- The values that are there to be set. -/
inductive Setting
  | url | cachePath | timeout | artifact | downstream | startSection | excludedSections | webSections
  deriving DecidableEq, Repr

/-- What the value under a key has to be. -/
inductive ValueKind
  | text | optionalText | number | identifiers
  deriving DecidableEq, Repr

theorem Section.forall_iff {P : Section → Prop} :
    (∀ s, P s) ↔ P .source ∧ P .output ∧ P .selection :=
  ⟨fun h => ⟨h _, h _, h _⟩, fun ⟨h₁, h₂, h₃⟩ s => by cases s <;> assumption⟩

namespace Setting

theorem forall_iff {P : Setting → Prop} :
    (∀ x, P x) ↔ (P .url ∧ P .cachePath ∧ P .timeout) ∧ (P .artifact ∧ P .downstream) ∧
      P .startSection ∧ P .excludedSections ∧ P .webSections :=
  ⟨fun h => ⟨⟨h _, h _, h _⟩, ⟨h _, h _⟩, h _, h _, h _⟩,
    fun ⟨⟨_, _, _⟩, ⟨_, _⟩, _, _, _⟩ x => by cases x <;> assumption⟩

/-- The section that a setting is in. -/
def home : Setting → Section
  | .url | .cachePath | .timeout => .source
  | .artifact | .downstream => .output
  | .startSection | .excludedSections | .webSections => .selection

def key : Setting → List Char
  | .url => "url".toList
  | .cachePath => "cache_path".toList
  | .timeout => "timeout".toList
  | .artifact => "artifact".toList
  | .downstream => "downstream".toList
  | .startSection => "start_section".toList
  | .excludedSections => "excluded_sections".toList
  | .webSections => "web_sections".toList

def kind : Setting → ValueKind
  | .url | .cachePath | .artifact | .startSection => .text
  | .timeout => .number
  | .downstream => .optionalText
  | .excludedSections | .webSections => .identifiers

end Setting

namespace ValueKind

/-- Whether a value is of the kind. Truth values are no numbers. -/
def Admits (d : Data) (v : Value) : ValueKind → Prop
  | .text => ∃ t, v = .string t
  | .optionalText => v = .null ∨ ∃ t, v = .string t
  | .number => (∃ n, v = .int n) ∨ (∃ x, v = .float x) ∨ ∃ origin, v = .undefined origin
  | .identifiers =>
    v = .null ∨ (∃ t, v = .string t) ∨ ∃ items, d.collection? v = some (.list items)

/-- Whether what has to be written of a value can be: the message if the value is of another kind, and
the items of a list. -/
def Writable (d : Data) (v : Value) (kind : ValueKind) : Prop :=
  (¬ kind.Admits d v → (d.shown? v).isSome) ∧
    (kind = .identifiers →
      ∀ items, d.collection? v = some (.list items) → ∀ item ∈ items, (d.bare? item).isSome)

/-- The complaint about a value of another kind. -/
def complaint : ValueKind → Section → List Char → List Char → Misconfiguration
  | .text | .optionalText => .notAString
  | .number => .notANumber
  | .identifiers => .notSections

end ValueKind

/-! ### Conditions on a document -/

section Conditions

variable (d : Data)

/-- Null, false, zero and what is empty. -/
def CountsAsNothing (v : Value) : Prop :=
  v = .null ∨ v = .bool false ∨ v = .int 0 ∨
    (∃ negative exponent, v = .float (.finite negative 0 exponent)) ∨
    v = .string [] ∨ v = .bytes [] ∨ v = .tuple [] ∨
    ∃ c ∈ d.collection? v, c = .list [] ∨ c = .mapping [] ∨ c = .orderedMapping [] ∨ c = .set []

/-- Whether a value can stand where entries are expected. -/
def HoldsEntries (v : Value) : Prop :=
  (mappingEntries? d v).isSome ∨ CountsAsNothing d v

def documentEntries : Entries := (mappingEntries? d d.root).getD []

def Section.value? (s : Section) : Option Value := valueAt? (documentEntries d) s.name

def Section.entries (s : Section) : Entries := ((s.value? d).bind (mappingEntries? d)).getD []

/-- A section that is there holds entries. -/
def Section.IsEntries (s : Section) : Prop := ∀ v ∈ s.value? d, HoldsEntries d v

/-- The value that a document has for a setting. -/
def Setting.value? (x : Setting) : Option Value := valueAt? (x.home.entries d) x.key

structure WellTyped : Prop where
  document : HoldsEntries d d.root
  sections : ∀ s : Section, s.IsEntries d
  values : ∀ x : Setting, ∀ v ∈ x.value? d, x.kind.Admits d v

/-- The timeout is no whole number beyond all finite ones. -/
def TimeoutFits : Prop :=
  ∀ n, Setting.timeout.value? d = some (.int n) → (Binary64.ofInt? n).isSome

def ValuesWritable : Prop := ∀ x : Setting, ∀ v ∈ x.value? d, x.kind.Writable d v

/-- What an error says of the document is so. -/
inductive Misconfigured : Misconfiguration → Prop
  | document (h : ¬ HoldsEntries d d.root) : Misconfigured .notAMapping
  | section (s : Section) {v : Value} (hvalue : s.value? d = some v) (h : ¬ HoldsEntries d v) :
      Misconfigured (.sectionNotAMapping s)
  | kind (x : Setting) {v : Value} {shown : List Char} (hvalue : x.value? d = some v)
      (h : ¬ x.kind.Admits d v) (hshown : d.shown? v = some shown) :
      Misconfigured (x.kind.complaint x.home x.key shown)
  | unwritable (x : Setting) {v : Value} (hvalue : x.value? d = some v)
      (h : ¬ x.kind.Writable d v) : Misconfigured .unwritable
  | timeout (h : ¬ TimeoutFits d) : Misconfigured .numberTooGreat

end Conditions

/-! ### What values say -/

/-- The text of a string. -/
def Yaml.Value.text? : Value → Option (List Char)
  | .string t => some (Text.joinPairs t)
  | _ => none

/-- A number as seconds. -/
def Yaml.Value.seconds? : Value → Option Seconds
  | .int n => some (.whole n)
  | .float x => some (.binary x)
  | .undefined _ => some (.binary .undefined)
  | _ => none

/-- The words of a string, or the items of a list that are not blank. -/
def identifiers? (d : Data) : Value → Option (List (List Char))
  | .string t => some (Text.words (Text.joinPairs t))
  | v =>
    match d.collection? v with
    | some (.list items) =>
      (items.mapM d.bare?).map fun texts => (texts.map Text.trim).filter (· ≠ [])
    | _ => none

/-! ### Single readings -/

section Readings

variable {d : Data} {v : Value}

theorem isEmptyCollection_iff {c : Collection} :
    isEmptyCollection c = true ↔
      c = .list [] ∨ c = .mapping [] ∨ c = .orderedMapping [] ∨ c = .set [] := by
  unfold isEmptyCollection
  split <;> simp_all

theorem isVoid_iff : isVoid d v = true ↔ CountsAsNothing d v := by
  unfold isVoid CountsAsNothing
  split
  case h_8 => simp_all [Option.any_eq_true, isEmptyCollection_iff]
  all_goals simp

theorem refuse_blames (x : Setting) (hvalue : x.value? d = some v) (h : ¬ x.kind.Admits d v) :
    ∃ m, (refuse d v (x.kind.complaint x.home x.key) : Except Misconfiguration α) = .error m ∧
      Misconfigured d m := by
  unfold refuse
  cases hshown : d.shown? v with
  | some shown => exact ⟨_, rfl, .kind x hvalue h hshown⟩
  | none =>
    refine ⟨_, rfl, .unwritable x hvalue fun hwritable => ?_⟩
    simpa [hshown] using hwritable.1 h

/-- The value of a setting is of the right kind, and what has to be written of it can be. -/
def Setting.Fits (d : Data) (x : Setting) : Prop :=
  ∀ v ∈ x.value? d, x.kind.Admits d v ∧ x.kind.Writable d v

/-- A reading of a setting may differ in what it does with values of the right kind only. -/
theorem checks_of_value (x : Setting) {r : Except Misconfiguration α} {a : α}
    (hnone : x.value? d = none → r = .ok a)
    (hok : ∀ v, x.value? d = some v → x.kind.Admits d v → x.kind.Writable d v → r = .ok a)
    (hunwritable : ∀ v, x.value? d = some v → x.kind.Admits d v → ¬ x.kind.Writable d v →
      r = .error .unwritable)
    (hrefuse : ∀ v, x.value? d = some v → ¬ x.kind.Admits d v →
      r = refuse d v (x.kind.complaint x.home x.key)) :
    Checks r (x.Fits d) a (Misconfigured d) where
  ok := by
    intro h
    cases hvalue : x.value? d with
    | none => exact hnone hvalue
    | some v => exact hok v hvalue (h v hvalue).1 (h v hvalue).2
  error := by
    intro h
    obtain ⟨v, hvalue, h⟩ : ∃ v, x.value? d = some v ∧
        (x.kind.Admits d v → ¬ x.kind.Writable d v) := by
      simpa [Setting.Fits] using h
    by_cases hfit : x.kind.Admits d v
    · exact ⟨_, hunwritable v hvalue hfit (h hfit), .unwritable x hvalue (h hfit)⟩
    · rw [hrefuse v hvalue hfit]
      exact refuse_blames x hvalue hfit

/-- Nothing has to be written of a value of the right kind, unless it is a list. -/
theorem checks_of_plain_value (x : Setting) (hkind : x.kind ≠ .identifiers)
    {r : Except Misconfiguration α} {a : α} (hnone : x.value? d = none → r = .ok a)
    (hok : ∀ v, x.value? d = some v → x.kind.Admits d v → r = .ok a)
    (hrefuse : ∀ v, x.value? d = some v → ¬ x.kind.Admits d v →
      r = refuse d v (x.kind.complaint x.home x.key)) :
    Checks r (x.Fits d) a (Misconfigured d) := by
  refine checks_of_value x hnone (fun v hvalue hfit _ => hok v hvalue hfit) ?_ hrefuse
  intro v _ hfit hwrong
  exact absurd ⟨fun h => absurd hfit h, fun h => absurd h hkind⟩ hwrong

theorem readString_checks (x : Setting) (hkind : x.kind = .text) (default : List Char) :
    Checks (readString d x.home (x.home.entries d) x.key default) (x.Fits d)
      (((x.value? d).bind Value.text?).getD default) (Misconfigured d) := by
  have hvalue? : valueAt? (x.home.entries d) x.key = x.value? d := rfl
  unfold readString
  rw [hvalue?]
  refine checks_of_plain_value x (by simp [hkind]) ?_ ?_ ?_
  · intro h
    rw [h]
    rfl
  · intro v h hfit
    rw [h]
    rw [hkind] at hfit
    obtain ⟨t, rfl⟩ := hfit
    rfl
  · intro v h hfit
    rw [h]
    rw [hkind] at hfit ⊢
    cases v with
    | string t => exact absurd ⟨t, rfl⟩ hfit
    | _ => rfl

theorem readOptional_checks (x : Setting) (hkind : x.kind = .optionalText) :
    Checks (readOptional d x.home (x.home.entries d) x.key) (x.Fits d)
      ((x.value? d).bind Value.text?) (Misconfigured d) := by
  have hvalue? : valueAt? (x.home.entries d) x.key = x.value? d := rfl
  unfold readOptional
  rw [hvalue?]
  refine checks_of_plain_value x (by simp [hkind]) ?_ ?_ ?_
  · intro h
    rw [h]
    rfl
  · intro v h hfit
    rw [h]
    rw [hkind] at hfit
    obtain rfl | ⟨t, rfl⟩ := hfit <;> rfl
  · intro v h hfit
    rw [h]
    rw [hkind] at hfit ⊢
    cases v with
    | null => exact absurd (.inl rfl) hfit
    | string t => exact absurd (.inr ⟨t, rfl⟩) hfit
    | _ => rfl

theorem readSeconds_checks (x : Setting) (hkind : x.kind = .number) (default : Binary64) :
    Checks (readSeconds d x.home (x.home.entries d) x.key default) (x.Fits d)
      (((x.value? d).bind Value.seconds?).getD (.binary default)) (Misconfigured d) := by
  have hvalue? : valueAt? (x.home.entries d) x.key = x.value? d := rfl
  unfold readSeconds
  rw [hvalue?]
  refine checks_of_plain_value x (by simp [hkind]) ?_ ?_ ?_
  · intro h
    rw [h]
    rfl
  · intro v h hfit
    rw [h]
    rw [hkind] at hfit
    obtain ⟨n, rfl⟩ | ⟨y, rfl⟩ | ⟨origin, rfl⟩ := hfit <;> rfl
  · intro v h hfit
    rw [h]
    rw [hkind] at hfit ⊢
    cases v with
    | int n => exact absurd (.inl ⟨n, rfl⟩) hfit
    | float y => exact absurd (.inr (.inl ⟨y, rfl⟩)) hfit
    | undefined origin => exact absurd (.inr (.inr ⟨origin, rfl⟩)) hfit
    | _ => rfl

theorem mapM_isSome_iff {α β : Type} {f : α → Option β} {l : List α} :
    (l.mapM f).isSome ↔ ∀ a ∈ l, (f a).isSome := by
  induction l with
  | nil => simp
  | cons a l ih =>
    cases h : f a <;> simp [List.mapM_cons, h, ← ih, Option.isSome_bind]

theorem eq_place_of_collection? {c : Collection} (h : d.collection? v = some c) :
    ∃ n, v = .place n := by
  cases v with
  | place n => exact ⟨n, rfl⟩
  | _ => simp [Data.collection?] at h

theorem readSections_checks (x : Setting) (hkind : x.kind = .identifiers)
    (default : List (List Char)) :
    Checks (readSections d x.home (x.home.entries d) x.key default) (x.Fits d)
      (((x.value? d).bind (identifiers? d)).getD default) (Misconfigured d) := by
  have hvalue? : valueAt? (x.home.entries d) x.key = x.value? d := rfl
  unfold readSections
  rw [hvalue?]
  refine checks_of_value x ?_ ?_ ?_ ?_
  · intro h
    rw [h]
    rfl
  · intro v h hfit hwritable
    rw [h]
    rw [hkind] at hfit hwritable
    obtain rfl | ⟨t, rfl⟩ | ⟨items, hlist⟩ := hfit
    · rfl
    · rfl
    · obtain ⟨n, rfl⟩ := eq_place_of_collection? hlist
      have hitems := mapM_isSome_iff.2 (hwritable.2 rfl items hlist)
      obtain ⟨texts, htexts⟩ := Option.isSome_iff_exists.1 hitems
      simp [identifiers?, hlist, htexts]
  · intro v h hfit hwrong
    rw [h]
    rw [hkind] at hfit hwrong
    have hlist : ∃ items, d.collection? v = some (.list items) ∧ items.mapM d.bare? = none := by
      by_contra hno
      refine hwrong ⟨fun h => absurd hfit h, fun _ items hlist => ?_⟩
      rw [← mapM_isSome_iff, Option.isSome_iff_ne_none]
      exact fun hnone => hno ⟨items, hlist, hnone⟩
    obtain ⟨items, hlist, hnone⟩ := hlist
    obtain ⟨n, rfl⟩ := eq_place_of_collection? hlist
    simp [hlist, hnone]
  · intro v h hfit
    rw [h]
    rw [hkind] at hfit ⊢
    cases v with
    | null => exact absurd (.inl rfl) hfit
    | string t => exact absurd (.inr (.inl ⟨t, rfl⟩)) hfit
    | place n =>
      dsimp only
      split
      · next items hlist => exact absurd (.inr (.inr ⟨items, hlist⟩)) hfit
      · rfl
    | _ => rfl

/-- Going on with the entries of a value, if it may stand where entries are expected. -/
theorem checks_of_entries {k : Entries → Except Misconfiguration α} {q : Prop} {a : α}
    {m : Misconfiguration} (hm : ¬ HoldsEntries d v → Misconfigured d m)
    (hk : Checks (k ((mappingEntries? d v).getD [])) q a (Misconfigured d)) :
    Checks
      (match mappingEntries? d v with
        | some entries => k entries
        | none => if isVoid d v then k [] else .error m)
      (HoldsEntries d v ∧ q) a (Misconfigured d) := by
  unfold HoldsEntries at hm ⊢
  rw [← isVoid_iff] at hm ⊢
  cases hentries : mappingEntries? d v with
  | some entries =>
    rw [hentries] at hk
    exact hk.congr (by simp)
  | none =>
    rw [hentries] at hm hk
    by_cases hvoid : isVoid d v
    · simp only [hvoid, if_true]
      exact hk.congr (by simp)
    · simp only [hvoid]
      exact ⟨by simp, fun _ => ⟨m, rfl, hm (by simp [hvoid])⟩⟩

theorem readSection_checks (s : Section) :
    Checks (readSection d (documentEntries d) s) (s.IsEntries d) (s.entries d) (Misconfigured d) := by
  have hvalue? : valueAt? (documentEntries d) s.name = s.value? d := rfl
  unfold readSection Section.entries Section.IsEntries
  rw [hvalue?]
  cases hvalue : s.value? d with
  | none => exact (Checks.pure []).congr (by simp)
  | some v => exact (checks_of_entries (.section s hvalue) (Checks.pure _)).congr (by simp)

end Readings

/-! ### The document -/

namespace Settings

variable (d : Data)

/-- The number of seconds that a document has as timeout. -/
def saidSeconds : Seconds :=
  ((Setting.timeout.value? d).bind Value.seconds?).getD (.binary ({} : Settings).timeout)

/-- What the entries of a document say, setting by setting; what they do not say is at its default. -/
def said : Settings where
  url := ((Setting.url.value? d).bind Value.text?).getD ({} : Settings).url
  cachePath :=
    .ofText (((Setting.cachePath.value? d).bind Value.text?).getD ({} : Settings).cachePath.toText)
  timeout := (saidSeconds d).round?.getD ({} : Settings).timeout
  artifact :=
    .ofText (((Setting.artifact.value? d).bind Value.text?).getD ({} : Settings).artifact.toText)
  downstream :=
    (((Setting.downstream.value? d).bind Value.text?).filter (· ≠ [])).map Path.ofText
  selection :=
    { startSection :=
        ((Setting.startSection.value? d).bind Value.text?).getD ({} : Selection).startSection
      excludedSections :=
        ((Setting.excludedSections.value? d).bind (identifiers? d)).getD
          ({} : Selection).excludedSections
      webSections :=
        ((Setting.webSections.value? d).bind (identifiers? d)).getD ({} : Selection).webSections }

theorem round_checks :
    Checks ((saidSeconds d).round?.elim (.error .numberTooGreat) .ok) (TimeoutFits d)
      (said d).timeout (Misconfigured d) := by
  have hfits : TimeoutFits d ↔ (saidSeconds d).round?.isSome := by
    unfold TimeoutFits saidSeconds
    cases Setting.timeout.value? d with
    | none => simp [Seconds.round?]
    | some v => cases v <;> simp [Seconds.round?, Value.seconds?]
  unfold said
  cases hround : (saidSeconds d).round? with
  | some x => exact (Checks.pure x).congr (by simp [hfits, hround])
  | none =>
    have hwrong : ¬ TimeoutFits d := by simp [hfits, hround]
    exact ⟨fun h => absurd h hwrong, fun _ => ⟨_, rfl, .timeout hwrong⟩⟩

theorem withSource_checks :
    Checks (withSource d {} (Section.source.entries d))
      (Setting.timeout.Fits d ∧ Setting.url.Fits d ∧ Setting.cachePath.Fits d ∧ TimeoutFits d)
      { said d with
        artifact := ({} : Settings).artifact
        downstream := ({} : Settings).downstream
        selection := {} }
      (Misconfigured d) := by
  refine (readSeconds_checks .timeout rfl _).bind ?_
  refine (readString_checks .url rfl _).bind ?_
  refine (readString_checks .cachePath rfl _).bind ?_
  exact (round_checks d).map rfl

theorem withOutput_checks {settings : Settings}
    (h : settings.artifact = ({} : Settings).artifact) :
    Checks (withOutput d settings (Section.output.entries d))
      (Setting.downstream.Fits d ∧ Setting.artifact.Fits d)
      { settings with artifact := (said d).artifact, downstream := (said d).downstream }
      (Misconfigured d) := by
  refine (readOptional_checks .downstream rfl).bind ?_
  refine (readString_checks .artifact rfl _).map ?_
  rw [h]
  unfold said
  rcases (Setting.downstream.value? d).bind Value.text? with _ | _ | ⟨c, r⟩ <;> rfl

theorem withSelection_checks {settings : Settings} (h : settings.selection = {}) :
    Checks (withSelection d settings (Section.selection.entries d))
      (Setting.startSection.Fits d ∧ Setting.excludedSections.Fits d ∧ Setting.webSections.Fits d)
      { settings with selection := (said d).selection }
      (Misconfigured d) := by
  refine (readString_checks .startSection rfl _).bind ?_
  refine (readSections_checks .excludedSections rfl _).bind ?_
  refine (readSections_checks .webSections rfl _).map ?_
  rw [h]
  rfl

theorem ofEntries_checks :
    Checks (ofEntries d (documentEntries d))
      ((∀ s : Section, s.IsEntries d) ∧ (∀ x : Setting, x.Fits d) ∧ TimeoutFits d)
      (said d) (Misconfigured d) := by
  have horder : (∀ s : Section, s.IsEntries d) ∧ (∀ x : Setting, x.Fits d) ∧ TimeoutFits d ↔
      Section.source.IsEntries d ∧
        (Setting.timeout.Fits d ∧ Setting.url.Fits d ∧ Setting.cachePath.Fits d ∧ TimeoutFits d) ∧
      Section.output.IsEntries d ∧ (Setting.downstream.Fits d ∧ Setting.artifact.Fits d) ∧
      Section.selection.IsEntries d ∧
        Setting.startSection.Fits d ∧ Setting.excludedSections.Fits d ∧ Setting.webSections.Fits d := by
    rw [Section.forall_iff, Setting.forall_iff]
    simp only [and_assoc, and_left_comm, and_comm]
  refine Checks.congr ?_ horder
  refine (readSection_checks .source).bind ?_
  refine (withSource_checks d).bind ?_
  refine (readSection_checks .output).bind ?_
  refine (withOutput_checks d (by rfl)).bind ?_
  refine (readSection_checks .selection).bind ?_
  exact withSelection_checks d (by rfl)

/-- The settings are those that the document says, provided that it is in order. -/
theorem ofData_checks :
    Checks (ofData d) (WellTyped d ∧ TimeoutFits d ∧ ValuesWritable d) (said d) (Misconfigured d) := by
  refine (checks_of_entries .document (ofEntries_checks d)).congr ?_
  constructor
  · rintro ⟨⟨hdocument, hsections, hkinds⟩, htimeout, hwritable⟩
    exact ⟨hdocument, hsections, fun x v h => ⟨hkinds x v h, hwritable x v h⟩, htimeout⟩
  · rintro ⟨hdocument, hsections, hfits, htimeout⟩
    exact ⟨⟨hdocument, hsections, fun x v h => (hfits x v h).1⟩, htimeout, fun x v h => (hfits x v h).2⟩

end Settings

/-- A document that is no mapping says nothing. -/
theorem conditions_of_no_mapping {d : Data} (h : mappingEntries? d d.root = none) :
    (WellTyped d ↔ isVoid d d.root = true) ∧ TimeoutFits d ∧ ValuesWritable d := by
  have hsection : ∀ s : Section, s.value? d = none := fun s => by
    simp [Section.value?, documentEntries, h, valueAt?, lookupKey]
  have hvalue : ∀ x : Setting, x.value? d = none := fun x => by
    simp [Setting.value?, Section.entries, hsection, valueAt?, lookupKey]
  refine ⟨⟨fun hwell => ?_, fun hvoid => ⟨.inr (isVoid_iff.1 hvoid), ?_, ?_⟩⟩, ?_, ?_⟩
  · rcases hwell.document with hmapping | hnothing
    · simp [h] at hmapping
    · exact isVoid_iff.2 hnothing
  · simp [Section.IsEntries, hsection]
  · simp [hvalue]
  · simp [TimeoutFits, hvalue]
  · simp [ValuesWritable, hvalue]

/-! ### The file -/

theorem message?_isSome_of_misconfigured {d : Data} {m : Misconfiguration} (h : Misconfigured d m)
    (htimeout : TimeoutFits d) (hwritable : ValuesWritable d) : m.message?.isSome := by
  cases h with
  | document | «section» => rfl
  | kind x => cases x <;> rfl
  | unwritable x hvalue h => exact absurd (hwritable x _ hvalue) h
  | timeout h => exact absurd htimeout h

namespace Job

variable {w : Workspace} {p : Path} {text : List Char} {d : Data}

theorem run_loadSettings (hexists : w.files.exists? p = .ok true)
    (hread : w.files.readText p = .ok text) (hload : Yaml.load text = .ok d) :
    (loadSettings p).run w = ((Settings.ofData d).mapError .wrongSettings, w) := by
  rw [loadSettings, run_bind, run_look, hexists]
  show (look (·.readText p) >>= _ : Job Settings).run w = _
  rw [run_bind, run_look, hread]
  dsimp only [Except.mapError]
  rw [hload]
  dsimp only
  cases Settings.ofData d <;> rfl

/-- A settings file is accepted exactly if it is well typed, its timeout fits and its values can be
written. Else the error is about something that is so in it, and has a message unless a number is too
great for one. -/
theorem loadSettings_judges (hexists : w.files.exists? p = .ok true)
    (hread : w.files.readText p = .ok text) (hload : Yaml.load text = .ok d) :
    ((∃ settings, (loadSettings p).run w = (.ok settings, w)) ↔
      WellTyped d ∧ TimeoutFits d ∧ ValuesWritable d) ∧
    (∀ e w', (loadSettings p).run w = (.error e, w') →
      w' = w ∧ ∃ m, e = .wrongSettings m ∧ Misconfigured d m) ∧
    (¬ WellTyped d → TimeoutFits d → ValuesWritable d →
      ∃ m message, (loadSettings p).run w = (.error (.wrongSettings m), w) ∧
        m.message? = some message) := by
  rw [run_loadSettings hexists hread hload]
  have hchecks := Settings.ofData_checks d
  refine ⟨?_, ?_, ?_⟩
  · constructor
    · rintro ⟨settings, h⟩
      by_contra hwrong
      obtain ⟨m, hm, -⟩ := hchecks.error hwrong
      rw [hm] at h
      cases (Prod.mk.inj h).1
    · intro hright
      exact ⟨_, by rw [hchecks.ok hright]; rfl⟩
  · rintro e w' h
    obtain ⟨herror, hsame⟩ := Prod.mk.inj h
    obtain ⟨m, hm, rfl⟩ := mapError_eq_error_iff.1 herror
    exact ⟨hsame.symm, m, rfl, (hchecks.blame_of_eq_error hm).2⟩
  · intro hwrong htimeout hwritable
    obtain ⟨m, hm, hblame⟩ := hchecks.error fun h => hwrong h.1
    obtain ⟨message, hmessage⟩ :=
      Option.isSome_iff_exists.1 (message?_isSome_of_misconfigured hblame htimeout hwritable)
    exact ⟨m, message, by rw [hm]; rfl, hmessage⟩

/-- A file that is read as settings. -/
def settingsWorkspace (text : List Char) : Workspace :=
  { files := ⟨[], [([['c']], .file (Files.encode text))]⟩ }

/-- Whether a text stands for a list that counts as nothing, or for one that does not. -/
def holdsList (text : List Char) (void : Bool) : Bool :=
  (Yaml.load text).toOption.any fun d => (mappingEntries? d d.root).isNone && isVoid d d.root == void

theorem exists_load_of_holdsList {text : List Char} {void : Bool}
    (h : holdsList text void = true) :
    ∃ d, Yaml.load text = .ok d ∧ mappingEntries? d d.root = none ∧ isVoid d d.root = void := by
  unfold holdsList at h
  cases hload : Yaml.load text with
  | error f => simp [hload, Except.toOption] at h
  | ok d => exact ⟨d, rfl, by simpa [hload, Except.toOption] using h⟩

/-- A list is refused, but one of no items passes for a mapping. -/
theorem loadSettings_judges_lists :
    (∃ d, (settingsWorkspace ['[', 'a', ']']).files.exists? (.ofText ['c']) = .ok true ∧
      (settingsWorkspace ['[', 'a', ']']).files.readText (.ofText ['c']) = .ok ['[', 'a', ']'] ∧
      Yaml.load ['[', 'a', ']'] = .ok d ∧ ¬ WellTyped d ∧
      ∃ m message, (loadSettings (.ofText ['c'])).run (settingsWorkspace ['[', 'a', ']']) =
          (.error (.wrongSettings m), settingsWorkspace ['[', 'a', ']']) ∧
        m.message? = some message) ∧
    ∃ d, (settingsWorkspace ['[', ']']).files.exists? (.ofText ['c']) = .ok true ∧
      (settingsWorkspace ['[', ']']).files.readText (.ofText ['c']) = .ok ['[', ']'] ∧
      Yaml.load ['[', ']'] = .ok d ∧ WellTyped d ∧
      ∃ settings, (loadSettings (.ofText ['c'])).run (settingsWorkspace ['[', ']']) =
        (.ok settings, settingsWorkspace ['[', ']']) := by
  constructor
  · have hexists : (settingsWorkspace ['[', 'a', ']']).files.exists? (.ofText ['c']) = .ok true := by
      decide +kernel
    have hread : (settingsWorkspace ['[', 'a', ']']).files.readText (.ofText ['c']) =
        .ok ['[', 'a', ']'] := by decide +kernel
    have hlist : holdsList ['[', 'a', ']'] false = true := by decide +kernel
    obtain ⟨d, hload, hentries, hvoid⟩ := exists_load_of_holdsList hlist
    obtain ⟨hwell, htimeout, hwritable⟩ := conditions_of_no_mapping hentries
    have hwrong : ¬ WellTyped d := by simp [hwell, hvoid]
    exact ⟨d, hexists, hread, hload, hwrong,
      (loadSettings_judges hexists hread hload).2.2 hwrong htimeout hwritable⟩
  · have hexists : (settingsWorkspace ['[', ']']).files.exists? (.ofText ['c']) = .ok true := by
      decide +kernel
    have hread : (settingsWorkspace ['[', ']']).files.readText (.ofText ['c']) = .ok ['[', ']'] := by
      decide +kernel
    have hlist : holdsList ['[', ']'] true = true := by decide +kernel
    obtain ⟨d, hload, hentries, hvoid⟩ := exists_load_of_holdsList hlist
    obtain ⟨hwell, htimeout, hwritable⟩ := conditions_of_no_mapping hentries
    have hright := hwell.2 hvoid
    exact ⟨d, hexists, hread, hload, hright,
      (loadSettings_judges hexists hread hload).1.2 ⟨hright, htimeout, hwritable⟩⟩

end Job

end SpecGrammar
