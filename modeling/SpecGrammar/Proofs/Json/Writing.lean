import SpecGrammar.Proofs.Json.Reader
import SpecGrammar.Proofs.Text.Blank

/-!
# Written JSON

* `Json.value`: what is written, as a value that a JSON text stands for;
* `escapeChar_cases`, `escaped_escapeChar`: a character is written in one of the ways in which it may
  stand in a string;
* `spells_write`: what is written is spelled as the grammar has it;
* `denotes_write_iff`, `read?_write`: it is a JSON text for its value and no other, and this is what the
  reader gives;
* `raw_write`: no control character is written as it is.
-/

namespace SpecGrammar.Json

open Text (CodePoint points joinPairs joinWith)

/-! ### Values -/

mutual

/-- What is written, as a value that a JSON text stands for. -/
def value : Json → Value
  | .bool value => .bool value
  | .string text => .string text
  | .array items => .array (valueAll items)
  | .object members => .object (valueMembers members)

def valueAll : List Json → List Value
  | [] => []
  | j :: r => j.value :: valueAll r

def valueMembers : List (List Char × Json) → List (List Char × Value)
  | [] => []
  | (key, j) :: r => (key, j.value) :: valueMembers r

end

theorem valueAll_eq_map (items : List Json) : valueAll items = items.map value := by
  induction items with
  | nil => rfl
  | cons j r ih => rw [valueAll, ih, List.map_cons]

/-! ### Strings -/

theorem unit?_hexDigits : ∀ n < 32, unit? (Text.hexDigits 4 n) = some (.char (Char.ofNat n)) := by
  decide +kernel

/-- A character is written with a letter for it, with its number, or as it is. -/
theorem escapeChar_cases (c : Char) :
    (∃ letter, escapeChar c = ['\\', letter] ∧ short? letter = some c ∧ 0x20 ≤ letter.toNat) ∨
      (c.toNat < 0x20 ∧ escapeChar c = '\\' :: 'u' :: Text.hexDigits 4 c.toNat) ∨
      (0x20 ≤ c.toNat ∧ c ≠ '"' ∧ c ≠ '\\' ∧ escapeChar c = [c]) := by
  by_cases hshort : c ∈ ['"', '\\', '\n', '\r', '\t', '\x0c', '\x08']
  · left
    simp only [List.mem_cons, List.not_mem_nil, or_false] at hshort
    rcases hshort with rfl | rfl | rfl | rfl | rfl | rfl | rfl
    all_goals exact ⟨_, rfl, rfl, by decide⟩
  · right
    simp only [List.mem_cons, not_or] at hshort
    obtain ⟨hquote, hslash, hn, hr, ht, hf, hb, -⟩ := hshort
    have hescape : escapeChar c =
        if c.toNat < 0x20 then '\\' :: 'u' :: Text.hexDigits 4 c.toNat else [c] := by
      simp only [escapeChar, beq_iff_eq, hquote, hslash, hn, hr, ht, hf, hb, if_false]
    rw [hescape]
    by_cases hcontrol : c.toNat < 0x20
    · exact .inl ⟨hcontrol, if_pos hcontrol⟩
    · exact .inr ⟨not_lt.1 hcontrol, hquote, hslash, if_neg hcontrol⟩

/-- A character is written in one of the ways in which it may stand in a string. -/
theorem escaped_escapeChar (c : Char) : Escaped (escapeChar c) (.char c) := by
  rcases escapeChar_cases c with ⟨letter, hc, hletter, -⟩ | ⟨hcontrol, hc⟩ | ⟨hraw, hquote, hslash, hc⟩
  · exact hc ▸ .short hletter
  · have hunit := unit?_hexDigits c.toNat hcontrol
    rw [Char.ofNat_toNat] at hunit
    exact hc ▸ .unit hunit
  · exact hc ▸ .plain hraw hquote hslash

theorem joinPairs_points (s : List Char) : joinPairs (points s) = s := by
  induction s with
  | nil => rfl
  | cons c r ih => exact congrArg (c :: ·) ih

theorem spellsString_writeString (s : List Char) : SpellsString (writeString s) s := by
  have h : List.Forall₂ Escaped (s.map escapeChar) (points s) := by
    rw [points, List.forall₂_map_left_iff, List.forall₂_map_right_iff, List.forall₂_same]
    exact fun c _ => escaped_escapeChar c
  have hspells := SpellsString.mk h
  rwa [joinPairs_points, ← List.flatMap_def] at hspells

/-! ### Lists -/

section Lists

variable {α : Type} {P : List Char → α → Prop} {Q : List Char → List α → Prop}

/-- What holds of one thing, and of a thing and a comma before others of which it holds, holds of things
written with a comma and a space between them. -/
theorem joinWith_of_forall₂ (hspace : ∀ t x, P t x → P (' ' :: t) x) (hone : ∀ t x, P t x → Q t [x])
    (hmore : ∀ t x u xs, P t x → Q u xs → Q (t ++ ',' :: u) (x :: xs)) {texts : List (List Char)}
    {xs : List α} (h : List.Forall₂ P texts xs) (t : List Char) (x : α) (ht : P t x) :
    Q (joinWith [',', ' '] (t :: texts)) (x :: xs) := by
  induction h generalizing t x with
  | nil => exact hone t x ht
  | @cons u y texts xs hu _ ih =>
    -- the space after the comma counts as one before what follows
    have hrest : joinWith [',', ' '] ((' ' :: u) :: texts) =
        ' ' :: joinWith [',', ' '] (u :: texts) := by
      cases texts <;> rfl
    have hq := ih (' ' :: u) y (hspace u y hu)
    rw [hrest] at hq
    have hjoin : joinWith [',', ' '] (t :: u :: texts) =
        t ++ ',' :: ' ' :: joinWith [',', ' '] (u :: texts) := by
      rw [Text.joinWith_cons (by simp), List.append_assoc]
      rfl
    rw [hjoin]
    exact hmore t x _ _ ht hq

end Lists

section Spaces

variable {s w : List Char} {v : Value} {m : List Char × Value}

theorem Space.nil : Space [] := by simp [Space]

theorem Space.cons (h : Space w) : Space (' ' :: w) := List.forall_mem_cons.2 ⟨rfl, h⟩

theorem Spells.element_of_value (h : Spells s (.value v)) : Spells s (.element v) := by
  simpa using Spells.element .nil h .nil

theorem Spells.space_element (h : Spells s (.element v)) : Spells (' ' :: s) (.element v) := by
  cases h with
  | element hw h hw' => exact .element hw.cons h hw'

theorem Spells.space_member (h : Spells s (.member m)) : Spells (' ' :: s) (.member m) := by
  cases h with
  | member hw hk hw' h => exact .member hw.cons hk hw' h

theorem Spells.member_of_value {key : List Char} (h : Spells s (.value v)) :
    Spells (writeString key ++ ':' :: ' ' :: s) (.member (key, v)) := by
  simpa using Spells.member .nil (spellsString_writeString key) .nil h.element_of_value.space_element

theorem spells_items {texts : List (List Char)} {vs : List Value} (hs : Spells s (.element v))
    (h : List.Forall₂ (fun t v => Spells t (.element v)) texts vs) :
    Spells (joinWith [',', ' '] (s :: texts)) (.items (v :: vs)) :=
  joinWith_of_forall₂ (Q := fun t vs => Spells t (.items vs)) (fun _ _ => Spells.space_element)
    (fun _ _ => .lastItem) (fun _ _ _ _ => .item) h s v hs

theorem spells_members {texts : List (List Char)} {ms : List (List Char × Value)}
    (hs : Spells s (.member m)) (h : List.Forall₂ (fun t m => Spells t (.member m)) texts ms) :
    Spells (joinWith [',', ' '] (s :: texts)) (.members (m :: ms)) :=
  joinWith_of_forall₂ (Q := fun t ms => Spells t (.members ms)) (fun _ _ => Spells.space_member)
    (fun _ _ => .lastMember) (fun _ _ _ _ => .members) h s m hs

end Spaces

/-! ### What is written -/

mutual

theorem spells_write : ∀ j : Json, Spells j.write (.value j.value)
  | .bool true => by simpa [write, value] using Spells.trueWord
  | .bool false => by simpa [write, value] using Spells.falseWord
  | .string text => .string (spellsString_writeString text)
  | .array [] => .emptyArray .nil
  | .array (j :: r) =>
    .array (spells_items (spells_write j).element_of_value (spells_writeAll r))
  | .object [] => .emptyObject .nil
  | .object ((_, j) :: r) =>
    .object (spells_members (spells_write j).member_of_value (spells_writeMembers r))

theorem spells_writeAll : ∀ items : List Json,
    List.Forall₂ (fun t v => Spells t (.element v)) (writeAll items) (valueAll items)
  | [] => .nil
  | j :: r => .cons (spells_write j).element_of_value (spells_writeAll r)

theorem spells_writeMembers : ∀ members : List (List Char × Json),
    List.Forall₂ (fun t m => Spells t (.member m)) (writeMembers members) (valueMembers members)
  | [] => .nil
  | (_, j) :: r => .cons (spells_write j).member_of_value (spells_writeMembers r)

end

/-- What is written is a JSON text for its value, and for no other. -/
theorem denotes_write_iff (j : Json) {v : Value} : Denotes j.write v ↔ v = j.value := by
  have h : Denotes j.write j.value := (spells_write j).element_of_value
  constructor
  · intro hv
    exact hv.unique h
  · rintro rfl
    exact h

/-- A reader gives back what was written. -/
theorem read?_write (j : Json) : read? j.write = some j.value :=
  read?_eq_some_iff.2 ((denotes_write_iff j).2 rfl)

/-! ### Control characters -/

/-- No control character. -/
def Raw (s : List Char) : Prop := ∀ c ∈ s, 0x20 ≤ c.toNat

theorem raw_iff {s : List Char} : Raw s ↔ s.all (0x20 ≤ ·.toNat) = true := by
  simp [Raw]

instance (s : List Char) : Decidable (Raw s) := decidable_of_iff _ raw_iff.symm

section Controls

variable {s t : List Char} {c : Char}

theorem Raw.append (hs : Raw s) (ht : Raw t) : Raw (s ++ t) := fun c hc =>
  (List.mem_append.1 hc).elim (hs c) (ht c)

theorem Raw.cons (hc : 0x20 ≤ c.toNat) (hs : Raw s) : Raw (c :: s) :=
  List.forall_mem_cons.2 ⟨hc, hs⟩

theorem raw_joinWith {texts : List (List Char)} (h : ∀ t ∈ texts, Raw t) :
    Raw (joinWith [',', ' '] texts) := by
  induction texts with
  | nil => simp [joinWith, Raw]
  | cons t texts ih =>
    obtain ⟨ht, hrest⟩ := List.forall_mem_cons.1 h
    by_cases hlast : texts = []
    · subst hlast
      exact ht
    · rw [Text.joinWith_cons hlast]
      exact (ht.append (by decide)).append (ih hrest)

theorem raw_hexDigits (width n : Nat) : Raw (Text.hexDigits width n) := by
  have hdigit : ∀ d < 16, 0x20 ≤ (Text.hexDigit d).toNat := by decide
  induction width generalizing n with
  | zero => simp [Text.hexDigits, Raw]
  | succ width ih =>
    rw [Text.hexDigits]
    refine (ih (n / 16)).append (List.forall_mem_singleton.2 ?_)
    exact hdigit _ (Nat.mod_lt _ (by omega))

theorem raw_escapeChar (c : Char) : Raw (escapeChar c) := by
  rcases escapeChar_cases c with ⟨letter, hc, -, hletter⟩ | ⟨-, hc⟩ | ⟨hraw, -, -, hc⟩
  · exact hc ▸ .cons (by decide) (List.forall_mem_singleton.2 hletter)
  · exact hc ▸ .cons (by decide) (.cons (by decide) (raw_hexDigits 4 c.toNat))
  · exact hc ▸ List.forall_mem_singleton.2 hraw

theorem raw_writeString (s : List Char) : Raw (writeString s) := by
  refine .cons (by decide) (Raw.append ?_ (by decide))
  intro c hc
  obtain ⟨d, -, hd⟩ := List.mem_flatMap.1 hc
  exact raw_escapeChar d c hd

end Controls

mutual

/-- Nothing is written with a control character. -/
theorem raw_write : ∀ j : Json, Raw j.write
  | .bool true => by decide
  | .bool false => by decide
  | .string text => raw_writeString text
  | .array items => .cons (by decide) (.append (raw_joinWith (raw_writeAll items)) (by decide))
  | .object members =>
    .cons (by decide) (.append (raw_joinWith (raw_writeMembers members)) (by decide))

theorem raw_writeAll : ∀ items : List Json, ∀ t ∈ writeAll items, Raw t
  | [] => by simp [writeAll]
  | j :: r => List.forall_mem_cons.2 ⟨raw_write j, raw_writeAll r⟩

theorem raw_writeMembers : ∀ members : List (List Char × Json), ∀ t ∈ writeMembers members, Raw t
  | [] => by simp [writeMembers]
  | (key, j) :: r =>
    List.forall_mem_cons.2 ⟨(raw_writeString key).append
      (.cons (by decide) (.cons (by decide) (raw_write j))), raw_writeMembers r⟩

end

end SpecGrammar.Json
