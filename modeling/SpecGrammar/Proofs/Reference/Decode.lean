import Mathlib.Data.List.Basic
import Mathlib.Data.List.Infix
import SpecGrammar.Reference.Decode

/-!
# Decoding of texts and of single references

* `decode_append_of_not_mem`: a beginning without ampersands stands for itself;
* `pieces_name`, `decode_name`: a reference by name that is closed with a semicolon stands for what
  the table has for the name, and decoding goes on after it;
* `decode_reference`: the references that grammar notation is written with;
* `decode_of_free`: a text in which no ampersand comes before a number sign or a letter stands for
  itself.
-/

namespace SpecGrammar.Reference

variable {s name text : List Char}

/-! ### The table of names -/

/-- The groups of names. -/
def groups : List (List (String × String)) :=
  [namesA, namesB, namesC, namesD, namesE, namesF, namesG, namesH, namesI, namesJ, namesK, namesL,
    namesM, namesN, namesO, namesP, namesQ, namesR, namesS, namesT, namesU, namesV, namesW, namesX,
    namesY, namesZ]

/-- The text for a name among the entries of a group. -/
def lookup (name : String) (group : List (String × String)) : Option String :=
  (group.find? fun entry => entry.1 == name).map (·.2)

theorem find?_flatten_map {α β : Type} (p : β → Bool) (f : α → β) (groups : List (List α)) :
    (groups.flatten.map f).find? p = groups.findSome? fun g => (g.find? (p ∘ f)).map f := by
  induction groups with
  | nil => rfl
  | cons g r ih =>
    rw [List.flatten_cons, List.map_append, List.find?_append, ih, List.findSome?_cons,
      List.find?_map]
    cases List.find? (p ∘ f) g <;> rfl

/-- Looking a name up among lists of characters is looking it up among strings, group by group. -/
theorem named?_eq_lookup (name : String) :
    named? name.toList = (groups.findSome? (lookup name)).map String.toList := by
  rw [named?, names, find?_flatten_map, List.map_findSome?, List.map_findSome?]
  refine congrArg (groups.findSome? ·) (funext fun g => ?_)
  have heq : ((fun entry : List Char × List Char => entry.1 == name.toList) ∘
      fun entry : String × String => (entry.1.toList, entry.2.toList)) =
        fun entry => entry.1 == name := by
    funext entry
    rw [Function.comp, Bool.eq_iff_iff, beq_iff_eq, beq_iff_eq, String.toList_inj]
  show Option.map Prod.snd (Option.map _ (g.find? _)) = (lookup name g).map String.toList
  rw [heq, lookup, Option.map_map, Option.map_map]
  rfl

/-- Names of the characters that are written as references in grammar notation. -/
def notationNames : List (String × String) :=
  [("lt", "<"), ("gt", ">"), ("ne", "≠"), ("isin", "∈"), ("notin", "∉")]

theorem lookup_notationNames :
    ∀ entry ∈ notationNames, groups.findSome? (lookup (entry.1 ++ ";")) = some entry.2 := by
  decide +kernel

/-! ### Decoding from left to right -/

theorem decode_nil : decode [] = [] := by
  rw [decode, pieces, List.flatMap_nil]

theorem decode_cons {c : Char} (hc : c ≠ '&') (s : List Char) : decode (c :: s) = c :: decode s := by
  simp [decode, pieces, hc, Piece.text]

theorem decode_append_of_not_mem (h : '&' ∉ s) (rest : List Char) :
    decode (s ++ rest) = s ++ decode rest := by
  induction s with
  | nil => rfl
  | cons c r ih =>
    simp only [List.mem_cons, not_or] at h
    rw [List.cons_append, decode_cons (Ne.symm h.1), ih h.2, List.cons_append]

/-- A text without ampersands stands for itself. -/
theorem decode_of_not_mem (h : '&' ∉ s) : decode s = s := by
  have := decode_append_of_not_mem h []
  rwa [List.append_nil, decode_nil, List.append_nil] at this

theorem reference?_name (hne : name ≠ []) (hl : name.length < longestName)
    (hn : ∀ c ∈ name, isNameCharacter c = true) (rest : List Char) :
    reference? (name ++ ';' :: rest) = some (name.length + 1, .name (name ++ [';'])) := by
  obtain ⟨c, r, rfl⟩ := List.exists_cons_of_ne_nil hne
  have hc : c ≠ '#' := by
    rintro rfl
    exact absurd (hn '#' (by simp)) (by decide)
  have htake : ((c :: r ++ ';' :: rest).take longestName).takeWhile isNameCharacter = c :: r := by
    obtain ⟨k, hk⟩ := Nat.exists_eq_add_of_lt hl
    have hk : longestName = (c :: r).length + (k + 1) := by omega
    rw [hk, List.take_length_add_append, List.take_succ_cons,
      List.takeWhile_append_of_pos hn, List.takeWhile_cons_of_neg (by decide), List.append_nil]
  have hdrop : (c :: r ++ ';' :: rest).drop (c :: r).length = ';' :: rest := List.drop_left
  have htext : (c :: r ++ ';' :: rest).take ((c :: r).length + 1) = c :: r ++ [';'] := by
    rw [List.take_length_add_append]
    rfl
  unfold reference?
  split
  · rename_i heq
    exact absurd (List.cons.inj heq).1 hc
  · simp only [htake, hdrop, semicolonLength, htext, ne_eq, reduceCtorEq, not_false_eq_true, if_true]

theorem pieces_name (hne : name ≠ []) (hl : name.length < longestName)
    (hn : ∀ c ∈ name, isNameCharacter c = true) (rest : List Char) :
    pieces ('&' :: (name ++ ';' :: rest)) = .name (name ++ [';']) :: pieces rest := by
  have hdrop : (name ++ ';' :: rest).drop (name.length + 1) = rest := by
    rw [List.drop_length_add_append]
    rfl
  rw [pieces]
  simp [reference?_name hne hl hn, hdrop]

/-- A reference by name, closed with a semicolon, stands for the text of its name. -/
theorem decode_name (hne : name ≠ []) (hl : name.length < longestName)
    (hn : ∀ c ∈ name, isNameCharacter c = true) (ht : named? (name ++ [';']) = some text)
    (rest : List Char) : decode ('&' :: (name ++ ';' :: rest)) = text ++ decode rest := by
  simp [decode, pieces_name hne hl hn, Piece.text, expandName, ht]

theorem decode_reference (n t : String) (h : (n, t) ∈ notationNames) (rest : List Char) :
    decode ('&' :: (n.toList ++ ';' :: rest)) = t.toList ++ decode rest := by
  have key : ∀ entry ∈ notationNames, entry.1.toList ≠ [] ∧
      entry.1.toList.length < longestName ∧ entry.1.toList.all isNameCharacter = true := by
    decide
  obtain ⟨hne, hl, hn⟩ := key _ h
  have ht : named? (n.toList ++ [';']) = some t.toList := by
    have := named?_eq_lookup (n ++ ";")
    rwa [lookup_notationNames _ h, Option.map_some, String.toList_append] at this
  exact decode_name hne hl (List.all_eq_true.1 hn) ht rest

/-! ### Texts without references -/

/-- No ampersand stands before a number sign or a letter. -/
def Free (s : List Char) : Prop :=
  ∀ r, '&' :: r <:+ s → ∀ c ∈ r.head?, c ≠ '#' ∧ c.isAlpha = false

instance (s : List Char) : Decidable (Free s) :=
  decidable_of_iff
    (∀ t ∈ s.tails, t.head? = some '&' →
      t.tail.head?.all (fun c => c != '#' && !c.isAlpha) = true) <| by
    simp only [List.mem_tails, Option.all_eq_true, Bool.and_eq_true, bne_iff_ne,
      Bool.not_eq_true']
    constructor
    · exact fun h r hr => h _ hr rfl
    · intro h t ht hamp
      obtain ⟨r, rfl⟩ := List.head?_eq_some_iff.1 hamp
      exact h r ht

theorem Free.suffix {t : List Char} (h : Free s) (ht : t <:+ s) : Free t :=
  fun r hr => h r (hr.trans ht)

theorem isAlpha_front?_of_mem_groups :
    ∀ group ∈ groups, ∀ entry ∈ group, entry.1.front?.any Char.isAlpha = true := by
  decide +kernel

/-- Every name begins with a letter. -/
theorem named?_of_not_isAlpha (h : s.head?.any Char.isAlpha = false) : named? s = none := by
  have hfind : names.find? (fun entry => entry.1 == s) = none := by
    rw [List.find?_eq_none]
    intro entry hentry heq
    obtain ⟨e, he, rfl⟩ := List.mem_map.1 hentry
    obtain ⟨group, hgroup, he⟩ := List.mem_flatten.1 he
    obtain rfl : e.1.toList = s := eq_of_beq heq
    rw [← String.front?_eq, isAlpha_front?_of_mem_groups group hgroup e he] at h
    cases h
  rw [named?, hfind]
  rfl

theorem longestNamed?_of_not_isAlpha (h : s.head?.any Char.isAlpha = false) (n : Nat) :
    longestNamed? n s = none := by
  fun_induction longestNamed? n s with
  | case1 => rfl
  | case2 => rfl
  | case3 n s text hnamed =>
    have hhead : (s.take (n + 2)).head?.any Char.isAlpha = false := by
      rwa [List.head?_take, if_neg (by omega)]
    rw [named?_of_not_isAlpha hhead] at hnamed
    cases hnamed
  | case4 n s _ ih => exact ih h

/-- What is no name and does not begin with one stands for itself. -/
theorem expandName_of_not_isAlpha (h : s.head?.any Char.isAlpha = false) :
    expandName s = '&' :: s := by
  rw [expandName, named?_of_not_isAlpha h, longestNamed?_of_not_isAlpha h]
  rfl

theorem eq_name_of_reference? {n : Nat} {piece : Piece} (hs : ∀ c ∈ s.head?, c ≠ '#')
    (h : reference? s = some (n, piece)) : piece = .name (s.take n) := by
  unfold reference? at h
  split at h
  · exact absurd rfl (hs '#' rfl)
  · simp only at h
    split at h
    · obtain ⟨rfl, rfl⟩ := Prod.mk.inj (Option.some.inj h)
      rfl
    · cases h

/-- A text in which no ampersand begins a reference stands for itself. -/
theorem decode_of_free (h : Free s) : decode s = s ∧ excess? s = none := by
  unfold decode excess?
  fun_induction pieces s with
  | case1 => exact ⟨rfl, rfl⟩
  | case2 c r hc n piece hpiece ih =>
    obtain rfl : c = '&' := eq_of_beq hc
    have hhead := h r List.suffix_rfl
    -- what follows the ampersand is taken for a name, but no name begins like that
    obtain rfl := eq_name_of_reference? (fun c hc => (hhead c hc).1) hpiece
    obtain ⟨hdecode, hexcess⟩ := ih (h.suffix ((List.drop_suffix n r).trans (List.suffix_cons _ r)))
    have htext : expandName (r.take n) = '&' :: r.take n := by
      refine expandName_of_not_isAlpha ?_
      cases r with
      | nil => simp
      | cons d r => cases n <;> simp [(hhead d rfl).2]
    refine ⟨?_, by rw [List.findSome?_cons, hexcess]; rfl⟩
    rw [List.flatMap_cons, hdecode, Piece.text, htext, List.cons_append, List.take_append_drop]
  | case3 c r hc _ ih | case4 c r hc ih =>
    obtain ⟨hdecode, hexcess⟩ := ih (h.suffix (List.suffix_cons c r))
    exact ⟨by rw [List.flatMap_cons, hdecode]; rfl, by rw [List.findSome?_cons, hexcess]; rfl⟩

end SpecGrammar.Reference
