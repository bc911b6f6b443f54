import SpecGrammar.Proofs.Settings
import SpecGrammar.Proofs.Yaml.View

/-!
# Where each setting comes from

A setting is what is given for it from outside, else what the document says under its key, else its
default.

* `Settings.get_said`, `Settings.get_override`: the two halves of that, setting by setting;
* `Setting.read?_eq_of_content_eq`: what a value says as that of a setting depends on its content alone,
  wherever the document keeps it;
* `Settings.get_override_local`: a setting that is resolved depends on nothing else.
-/

namespace SpecGrammar

open Yaml Decimal

/-! ### Settings one by one -/

/-- What a setting is set to. -/
inductive SettingValue
  | text (t : List Char)
  | path (p : Path)
  | optionalPath (p : Option Path)
  | seconds (x : Binary64)
  | sections (identifiers : List (List Char))
  deriving DecidableEq, Repr

def Settings.get (settings : Settings) : Setting → SettingValue
  | .url => .text settings.url
  | .cachePath => .path settings.cachePath
  | .timeout => .seconds settings.timeout
  | .artifact => .path settings.artifact
  | .downstream => .optionalPath settings.downstream
  | .startSection => .text settings.selection.startSection
  | .excludedSections => .sections settings.selection.excludedSections
  | .webSections => .sections settings.selection.webSections

/-- What is given for a setting from outside the document. An empty address does not count. -/
def Overrides.given? (o : Overrides) : Setting → Option SettingValue
  | .url => (o.url.filter (· ≠ [])).map .text
  | .cachePath => o.cachePath.map .path
  | .artifact => o.artifact.map .path
  | .downstream => o.downstream.map fun p => .optionalPath (some p)
  | .timeout | .startSection | .excludedSections | .webSections => none

namespace Setting

/-- What a value says as that of a setting. Null says nothing, and neither does an empty path to the
copy. -/
def read? (d : Data) (v : Value) : Setting → Option SettingValue
  | .url | .startSection => v.text?.map .text
  | .cachePath | .artifact => v.text?.map fun t => .path (.ofText t)
  | .timeout => (v.seconds?.bind Seconds.round?).map .seconds
  | .downstream => (v.text?.filter (· ≠ [])).map fun t => .optionalPath (some (.ofText t))
  | .excludedSections | .webSections => (identifiers? d v).map .sections

/-- What a document says under the key of a setting. -/
def said? (d : Data) (x : Setting) : Option SettingValue := (x.value? d).bind fun v => x.read? d v

theorem eq_of_identifiers {x : Setting} (h : x.kind = .identifiers) :
    x = .excludedSections ∨ x = .webSections := by
  cases x <;> simp_all [kind]

end Setting

/-! ### Precedence -/

namespace Settings

theorem ofText_toText_cachePath :
    Path.ofText ({} : Settings).cachePath.toText = ({} : Settings).cachePath := by decide +kernel

theorem ofText_toText_artifact :
    Path.ofText ({} : Settings).artifact.toText = ({} : Settings).artifact := by decide +kernel

theorem apply_getD_bind {α β γ : Type} (f : β → γ) (g : α → Option β) (o : Option α) (b : β) :
    f ((o.bind g).getD b) = (o.bind fun a => (g a).map f).getD (f b) := by
  cases o with
  | none => rfl
  | some a => exact (Option.getD_map f b (g a)).symm

theorem get_said (d : Data) (x : Setting) :
    (said d).get x = (x.said? d).getD (({} : Settings).get x) := by
  cases x with
  | url => exact apply_getD_bind SettingValue.text _ _ _
  | startSection => exact apply_getD_bind SettingValue.text _ _ _
  | excludedSections => exact apply_getD_bind SettingValue.sections _ _ _
  | webSections => exact apply_getD_bind SettingValue.sections _ _ _
  | cachePath =>
    refine (apply_getD_bind (fun t => SettingValue.path (.ofText t)) _ _ _).trans ?_
    rw [ofText_toText_cachePath]
    rfl
  | artifact =>
    refine (apply_getD_bind (fun t => SettingValue.path (.ofText t)) _ _ _).trans ?_
    rw [ofText_toText_artifact]
    rfl
  | timeout =>
    unfold Setting.said?
    simp only [get, said, saidSeconds]
    cases Setting.timeout.value? d with
    | none => rfl
    | some v =>
      simp only [Option.bind_some, Setting.read?]
      cases v.seconds? with
      | none => rfl
      | some s => exact (Option.getD_map SettingValue.seconds _ _).symm
  | downstream =>
    unfold Setting.said?
    simp only [get, said]
    cases Setting.downstream.value? d with
    | none => rfl
    | some v =>
      simp only [Option.bind_some, Setting.read?]
      cases v.text?.filter (· ≠ []) <;> rfl

theorem get_override (settings : Settings) (o : Overrides) (x : Setting) :
    (settings.override o).get x = (o.given? x).getD (settings.get x) := by
  cases x with
  | url =>
    simp only [get, override, Overrides.given?]
    rcases o.url with _ | _ | ⟨c, r⟩ <;> rfl
  | cachePath => exact (Option.getD_map SettingValue.path _ _).symm
  | artifact => exact (Option.getD_map SettingValue.path _ _).symm
  | downstream =>
    simp only [get, override, Overrides.given?]
    cases o.downstream <;> rfl
  | timeout | startSection | excludedSections | webSections => rfl

end Settings

/-! ### The content of values -/

section Content

variable {d d' : Data} {v v' : Value}

/-- What a value holds; what a list holds is what its items hold, each on its own. -/
def content (d : Data) (v : Value) : View :=
  match d.collection? v with
  | some (.list items) => .collection (.list (items.map d.view))
  | _ => d.view v

theorem exists_content_place (d : Data) (n : Nat) : ∃ c, content d (.place n) = .collection c := by
  unfold content
  split <;> exact ⟨_, rfl⟩

theorem text?_eq_of_content (d : Data) (v : Value) :
    v.text? =
      match content d v with
      | .single u => u.text?
      | _ => none := by
  cases v with
  | place n =>
    obtain ⟨c, hc⟩ := exists_content_place d n
    rw [hc]
    rfl
  | _ => rfl

theorem seconds?_eq_of_content (d : Data) (v : Value) :
    v.seconds? =
      match content d v with
      | .single u => u.seconds?
      | _ => none := by
  cases v with
  | place n =>
    obtain ⟨c, hc⟩ := exists_content_place d n
    rw [hc]
    rfl
  | _ => rfl

theorem content_of_list {items : List Value} (h : d.collection? v = some (.list items)) :
    content d v = .collection (.list (items.map d.view)) := by
  unfold content
  rw [h]

theorem exists_list_of_view {views : List View} (h : d.view v = .collection (.list views)) :
    ∃ items, d.collection? v = some (.list items) := by
  obtain ⟨n, rfl, hplace⟩ := viewWith_eq_collection h
  simp only [Data.viewPlace] at hplace
  unfold Data.collection?
  cases hc : d.collections[n]? with
  | none => simp [hc] at hplace
  | some c => cases c <;> simp [hc, Collection.viewWith] at hplace ⊢

theorem exists_list_of_content {views : List View} (h : content d v = .collection (.list views)) :
    ∃ items, d.collection? v = some (.list items) := by
  unfold content at h
  split at h
  · next items hlist => exact ⟨items, hlist⟩
  · exact exists_list_of_view h

theorem identifiers?_of_list {items : List Value} (h : d.collection? v = some (.list items)) :
    identifiers? d v =
      (items.mapM d.bare?).map fun texts => (texts.map Text.trim).filter (· ≠ []) := by
  obtain ⟨n, rfl⟩ := eq_place_of_collection? h
  simp only [identifiers?, h]

theorem identifiers?_of_not_list (h : ¬ ∃ items, d.collection? v = some (.list items)) :
    identifiers? d v = v.text?.map Text.words := by
  cases v with
  | place n =>
    simp only [identifiers?]
    split
    · next items hlist => exact absurd ⟨items, hlist⟩ h
    · rfl
  | _ => rfl

theorem identifiers?_eq_of_content_eq (h : content d v = content d' v') :
    identifiers? d v = identifiers? d' v' := by
  by_cases hlist : ∃ items, d.collection? v = some (.list items)
  · obtain ⟨items, hitems⟩ := hlist
    have hright := h.symm.trans (content_of_list hitems)
    obtain ⟨items', hitems'⟩ := exists_list_of_content hright
    have hviews := CollectionView.list.inj <| View.collection.inj <|
      (content_of_list hitems').symm.trans hright
    have hbare : ∀ i i', d'.view i = d.view i' → d'.bare? i = d.bare? i' :=
      fun _ _ => Data.bare?_eq_of_view_eq
    rw [identifiers?_of_list hitems, identifiers?_of_list hitems', mapM_eq_of_map_eq hbare hviews]
  · have hlist' : ¬ ∃ items, d'.collection? v' = some (.list items) := by
      rintro ⟨items, hitems⟩
      exact hlist (exists_list_of_content (h.trans (content_of_list hitems)))
    rw [identifiers?_of_not_list hlist, identifiers?_of_not_list hlist', text?_eq_of_content d, h,
      ← text?_eq_of_content d']

theorem Setting.read?_eq_of_content_eq (h : content d v = content d' v') (x : Setting) :
    x.read? d v = x.read? d' v' := by
  have htext : v.text? = v'.text? := by
    rw [text?_eq_of_content d, h, ← text?_eq_of_content d']
  have hseconds : v.seconds? = v'.seconds? := by
    rw [seconds?_eq_of_content d, h, ← seconds?_eq_of_content d']
  cases x <;> simp only [read?, htext, hseconds, identifiers?_eq_of_content_eq h]

end Content

/-! ### Independence -/

namespace Settings

variable {d d' : Data} {settings settings' : Settings}

theorem said?_eq_of_content_eq {x : Setting}
    (h : (x.value? d).map (content d) = (x.value? d').map (content d')) : x.said? d = x.said? d' := by
  unfold Setting.said?
  generalize x.value? d = o at h
  generalize x.value? d' = o' at h
  cases o with
  | none =>
    obtain rfl : o' = none := by simpa using h.symm
    rw [Option.bind_none, Option.bind_none]
  | some v =>
    obtain ⟨v', rfl, hcontent⟩ := Option.map_eq_some_iff.1 h.symm
    rw [Option.bind_some, Option.bind_some]
    exact Setting.read?_eq_of_content_eq hcontent.symm x

theorem get_override_eq (h : ofData d = .ok settings) (o : Overrides) (x : Setting) :
    (settings.override o).get x = ((o.given? x).or (x.said? d)).getD (({} : Settings).get x) := by
  obtain ⟨-, rfl⟩ := (ofData_checks d).eq_ok_iff.1 h
  rw [get_override, get_said]
  cases o.given? x <;> rfl

/-- Each setting that is resolved is what is given for it, else what the document says under its key,
else its default; nothing of other keys and nothing else that is given plays a part, so two runs that
agree on what is given for a setting and on the content under its key agree on the setting. A list of no
sections is kept. -/
theorem get_override_local (h : ofData d = .ok settings) (h' : ofData d' = .ok settings')
    (o o' : Overrides) (x : Setting) :
    (settings.override o).get x = ((o.given? x).or (x.said? d)).getD (({} : Settings).get x) ∧
    (x.kind = .identifiers → ∀ v ∈ x.value? d, d.collection? v = some (.list []) →
      (settings.override o).get x = .sections []) ∧
    (o.given? x = o'.given? x →
      (x.value? d).map (content d) = (x.value? d').map (content d') →
      (settings.override o).get x = (settings'.override o').get x) := by
  refine ⟨get_override_eq h o x, fun hkind v hvalue hlist => ?_, fun hgiven hcontent => ?_⟩
  · have hempty : identifiers? d v = some [] := by simp [identifiers?_of_list hlist]
    have hsaid : x.said? d = some (.sections []) := by
      unfold Setting.said?
      rw [hvalue]
      obtain rfl | rfl := Setting.eq_of_identifiers hkind <;> simp [Setting.read?, hempty]
    have hgiven : o.given? x = none := by
      obtain rfl | rfl := Setting.eq_of_identifiers hkind <;> rfl
    rw [get_override_eq h, hsaid, hgiven]
    rfl
  · rw [get_override_eq h, get_override_eq h', hgiven, said?_eq_of_content_eq hcontent]

theorem exists_ok_of_toOption {ε α : Type} {x : Except ε α} (h : x.toOption.isSome) :
    ∃ a, x = .ok a := by
  cases x with
  | ok a => exact ⟨a, rfl⟩
  | error e => cases h

/-- A document that leaves out one section and no others. -/
def oneExcluded : Data where
  collections := #[.mapping [(.string (Text.points "selection".toList), .place 1)],
    .mapping [(.string (Text.points "excluded_sections".toList), .place 2)],
    .list [.string (Text.points ['s'])]]
  root := .place 0

/-- The same section left out, in other company and at another place. -/
def oneExcludedToo : Data where
  collections := #[.list [.string (Text.points ['s'])],
    .list [],
    .mapping [(.string (Text.points "web_sections".toList), .place 1),
      (.string (Text.points "excluded_sections".toList), .place 0)],
    .mapping [(.string (Text.points "timeout".toList), .int 5)],
    .mapping [(.string (Text.points "selection".toList), .place 2),
      (.string (Text.points "source".toList), .place 3)]]
  root := .place 4

theorem get_override_local_excluded :
    ∃ settings settings', ofData oneExcluded = .ok settings ∧ ofData oneExcludedToo = .ok settings' ∧
      (settings.override { url := some ['u'] }).get .excludedSections =
        (settings'.override {}).get .excludedSections ∧
      (settings'.override {}).get .webSections = .sections [] := by
  have hloads : (ofData oneExcluded).toOption.isSome ∧ (ofData oneExcludedToo).toOption.isSome := by
    decide +kernel
  obtain ⟨settings, h⟩ := exists_ok_of_toOption hloads.1
  obtain ⟨settings', h'⟩ := exists_ok_of_toOption hloads.2
  have hvalue : Setting.excludedSections.value? oneExcluded = some (.place 2) := rfl
  have hvalue' : Setting.excludedSections.value? oneExcludedToo = some (.place 0) := rfl
  have hcontent : content oneExcluded (.place 2) =
      .collection (.list [.single (.string [.char 's'])]) := rfl
  have hcontent' : content oneExcludedToo (.place 0) =
      .collection (.list [.single (.string [.char 's'])]) := rfl
  have hweb : Setting.webSections.value? oneExcludedToo = some (.place 1) := rfl
  refine ⟨settings, settings', h, h', ?_, ?_⟩
  · refine (get_override_local h h' _ _ .excludedSections).2.2 rfl ?_
    rw [hvalue, hvalue', Option.map_some, Option.map_some, hcontent, hcontent']
  · exact (get_override_local h' h _ {} .webSections).2.1 rfl _ hweb rfl

end Settings

end SpecGrammar
