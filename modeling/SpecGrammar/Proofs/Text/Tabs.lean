import SpecGrammar.Proofs.Text.Margin

/-!
# What a part of a text becomes when tabs are expanded

* `columnAfter`: the column behind a text;
* `expandTabsFrom_append`: what comes behind a text is expanded from its column on;
* `exists_part_of_expandTabsFrom`: a part of the expanded text that does not begin or end with white space
  comes of a part of the text;
* `expandTabsFrom_eq_self_iff`: that part is left alone just if it holds no tab;
* `Expanded`: texts that parts of a text are expanded to, one after the other.
-/

namespace SpecGrammar.Text

/-- The column behind a text that stands in the given column. -/
def columnAfter : Nat → List Char → Nat
  | column, [] => column
  | column, c :: r =>
    if c == '\t' then columnAfter (column + (tabWidth - column % tabWidth)) r
    else if c == '\n' || c == '\r' then columnAfter 0 r
    else columnAfter (column + 1) r

variable {s t u v p : List Char} {c : Char} {column : Nat}

/-! ### Columns -/

theorem columnAfter_append (column : Nat) (s t : List Char) :
    columnAfter column (s ++ t) = columnAfter (columnAfter column s) t := by
  induction s generalizing column with
  | nil => rfl
  | cons c s ih =>
    simp only [List.cons_append, columnAfter]
    split
    · exact ih _
    · split <;> exact ih _

theorem expandTabsFrom_cons (column : Nat) (c : Char) (s : List Char) :
    expandTabsFrom column (c :: s) =
      expandTabsFrom column [c] ++ expandTabsFrom (columnAfter column [c]) s := by
  simp only [expandTabsFrom, columnAfter]
  split
  · simp
  · split <;> rfl

theorem expandTabsFrom_append (column : Nat) (s t : List Char) :
    expandTabsFrom column (s ++ t) =
      expandTabsFrom column s ++ expandTabsFrom (columnAfter column s) t := by
  induction s generalizing column with
  | nil => rfl
  | cons c s ih =>
    rw [List.cons_append, expandTabsFrom_cons, ih, expandTabsFrom_cons column c s,
      ← columnAfter_append, List.append_assoc]
    rfl

/-! ### Parts -/

/-- A tab becomes spaces, and every other character itself. -/
theorem expandTabsFrom_singleton (column : Nat) (c : Char) :
    c ≠ '\t' ∧ expandTabsFrom column [c] = [c] ∨ ∀ d ∈ expandTabsFrom column [c], d = ' ' := by
  by_cases hc : c = '\t'
  · subst hc
    right
    intro d hd
    simpa using (mem_expandTabsFrom hd).resolve_right (by simp)
  · exact .inl ⟨hc, expandTabsFrom_of_not_mem (by simpa using Ne.symm hc) column⟩

/-- What is no space in the expanded text stands in the text. -/
theorem exists_char_of_expandTabsFrom (h : expandTabsFrom column s = u ++ c :: v) (hc : c ≠ ' ') :
    ∃ b r, s = b ++ c :: r ∧ expandTabsFrom column b = u ∧
      expandTabsFrom (columnAfter column (b ++ [c])) r = v := by
  induction s generalizing column u with
  | nil => simp [expandTabsFrom] at h
  | cons d s ih =>
    rw [expandTabsFrom_cons] at h
    -- where the character stands behind what the first one becomes
    have hlater : ∀ w, u = expandTabsFrom column [d] ++ w →
        expandTabsFrom (columnAfter column [d]) s = w ++ c :: v →
        ∃ b r, d :: s = b ++ c :: r ∧ expandTabsFrom column b = u ∧
          expandTabsFrom (columnAfter column (b ++ [c])) r = v := by
      rintro w rfl hw
      obtain ⟨b, r, rfl, rfl, rfl⟩ := ih hw
      refine ⟨d :: b, r, rfl, expandTabsFrom_cons column d b, ?_⟩
      rw [List.cons_append, ← List.singleton_append, columnAfter_append]
    rcases List.append_eq_append_iff.1 h with ⟨w, hu, hw⟩ | ⟨w, hd, hw⟩
    · exact hlater w hu hw
    · cases w with
      | nil => exact hlater [] (by simpa using hd.symm) (by simpa using hw.symm)
      | cons e w =>
        obtain ⟨rfl, rfl⟩ := List.cons.inj hw
        rcases expandTabsFrom_singleton column d with ⟨-, hself⟩ | hspaces
        · rw [hself] at hd
          obtain ⟨rfl, rfl, rfl⟩ : u = [] ∧ d = c ∧ w = [] := by
            cases u <;> simp_all
          exact ⟨[], s, rfl, rfl, rfl⟩
        · exact absurd (hspaces c (by rw [hd]; simp)) hc

theorem tab_not_mem_expandTabsFrom (column : Nat) (s : List Char) : '\t' ∉ expandTabsFrom column s :=
  fun htab => (mem_expandTabsFrom htab).elim (by decide) fun htab => htab.2 rfl

/-- Just a text without tabs is left alone. -/
theorem expandTabsFrom_eq_self_iff : expandTabsFrom column s = s ↔ '\t' ∉ s :=
  ⟨fun h => h ▸ tab_not_mem_expandTabsFrom column s, fun h => expandTabsFrom_of_not_mem h column⟩

/-- A part of the expanded text that is trimmed comes of a part of the text. -/
theorem exists_part_of_expandTabsFrom (h : expandTabsFrom column s = u ++ p ++ v) (hne : p ≠ [])
    (htrim : trim p = p) :
    ∃ before part after, s = before ++ part ++ after ∧
      expandTabsFrom (columnAfter column before) part = p ∧
      expandTabsFrom (columnAfter column (before ++ part)) after = v := by
  have hspace : ∀ {d}, isBlank d = false → d ≠ ' ' := by
    rintro d hd rfl
    exact absurd hd (by decide)
  have htab : '\t' ∉ u ++ p ++ v := h ▸ tab_not_mem_expandTabsFrom column s
  have hself : ∀ {d column}, d ∈ p → expandTabsFrom column [d] = [d] := fun {d column} hd => by
    refine expandTabsFrom_eq_self_iff.2 fun hmem => htab ?_
    obtain rfl := List.mem_singleton.1 hmem
    simp [hd]
  obtain ⟨c, q, rfl⟩ := List.exists_cons_of_ne_nil hne
  have hc := hspace (isBlank_head_of_trim htrim c rfl)
  have hfirst : expandTabsFrom column s = u ++ c :: (q ++ v) := by simpa using h
  obtain ⟨before, r, rfl, rfl, hr⟩ := exists_char_of_expandTabsFrom hfirst hc
  rcases List.eq_nil_or_concat q with rfl | ⟨q, d, rfl⟩
  · exact ⟨before, [c], r, by simp, hself (by simp), by simpa using hr⟩
  · have hd := hspace (isBlank_last_of_trim (s := c :: q) (by simpa using htrim))
    have hlast : expandTabsFrom (columnAfter column (before ++ [c])) r = q ++ d :: v := by
      simpa using hr
    obtain ⟨middle, after, rfl, rfl, rfl⟩ := exists_char_of_expandTabsFrom hlast hd
    refine ⟨before, c :: middle ++ [d], after, by simp, ?_, ?_⟩
    · rw [expandTabsFrom_append, expandTabsFrom_cons, hself (by simp), hself (by simp),
        columnAfter_append]
      simp
    · have hpart : before ++ (c :: middle ++ [d]) = before ++ [c] ++ (middle ++ [d]) := by simp
      rw [hpart, columnAfter_append]

/-! ### Several parts -/

/-- Parts of a text that stands in a column, one after the other without overlap, and what each is
expanded to where it stands. -/
inductive Expanded : Nat → List (List Char) → List (List Char) → List Char → Prop
  | nil (column : Nat) (s : List Char) : Expanded column [] [] s
  | cons {column : Nat} {part after : List Char} {parts shown : List (List Char)}
      (before : List Char)
      (h : Expanded (columnAfter column (before ++ part)) parts shown after) :
      Expanded column (part :: parts) (expandTabsFrom (columnAfter column before) part :: shown)
        (before ++ part ++ after)

variable {parts shown : List (List Char)}

/-- A part is the same when expanded just if it holds no tab. -/
theorem Expanded.forall₂ (h : Expanded column parts shown s) :
    List.Forall₂ (fun part text => text = part ↔ '\t' ∉ part) parts shown := by
  induction h with
  | nil => exact .nil
  | cons before _ ih => exact .cons expandTabsFrom_eq_self_iff ih

theorem Expanded.eq_of_not_mem (h : Expanded column parts shown s)
    (htab : ∀ part ∈ parts, '\t' ∉ part) : shown = parts := by
  induction h with
  | nil => rfl
  | cons before _ ih =>
    obtain ⟨hpart, hparts⟩ := List.forall_mem_cons.1 htab
    rw [expandTabsFrom_of_not_mem hpart, ih hparts]

end SpecGrammar.Text
