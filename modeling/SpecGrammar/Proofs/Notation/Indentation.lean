import SpecGrammar.Proofs.Joining
import SpecGrammar.Proofs.Text.Margin

/-!
# How far a text is indented

* `outcome`: what a text is read as;
* `ofText?_drop`: a row that is indented further than is taken off it stays the same line;
* `linesPast`: the lines that count among rows from which some columns are taken off;
* `outcome_of_indented`: lines that are all indented belong to no production;
* `depth_immaterial`: neither the depth of a whole text nor that of rows beyond the margin matters.
-/

namespace SpecGrammar.Notation

open Text (Blank)

/-- What a text is read as: its elements, or what is wrong with it. -/
def outcome (text : List Char) : Except Defect (List Element) :=
  (Grammar.parse text).map (·.elements)

variable {s t row ink gap : List Char} {pieces : List (List Char)} {line : Line} {n : Nat}

theorem outcome_eq_parseElements (s : List Char) : outcome s = parseElements s := by
  rw [outcome, Grammar.parse]
  cases parseElements s <;> rfl

/-- The lines that count determine what a text is read as. -/
theorem outcome_congr (h : significantLines s = significantLines t) : outcome s = outcome t := by
  simp only [outcome_eq_parseElements, parseElements, h]

/-! ### Rows that are set in -/

/-- White space in front of a row makes it an indented one. -/
theorem ofText?_append (hgap : Blank gap) (hne : gap ≠ []) (ink : List Char) :
    Line.ofText? (gap ++ ink) = (Line.ofText? ink).map fun line => { line with indented := true } := by
  have htrim := Text.trim_append hgap ink
  obtain ⟨c, gap, rfl⟩ := List.exists_cons_of_ne_nil hne
  have hc : Text.isBlank c = true := hgap c (by simp)
  simp only [Line.ofText?, htrim]
  split <;> simp [hc]

theorem blank_replicate (n : Nat) : Blank (List.replicate n ' ') := by
  intro c hc
  obtain rfl := List.eq_of_mem_replicate hc
  decide

theorem ofText?_replicate (h : 0 < n) (ink : List Char) :
    Line.ofText? (List.replicate n ' ' ++ ink) =
      (Line.ofText? ink).map fun line => { line with indented := true } :=
  ofText?_append (blank_replicate n) (by simpa using Nat.ne_of_gt h) ink

/-- What is left of a row that is indented further than is taken off it counts as the row does. -/
theorem ofText?_drop (h : n < Text.indentation row) :
    Line.ofText? (row.drop n) = Line.ofText? row := by
  obtain ⟨ink, hrow, hdrop⟩ := Text.exists_drop_eq_replicate h.le
  conv_rhs => rw [hrow]
  rw [hdrop, ofText?_replicate (by omega), ofText?_replicate (by omega)]

theorem indented_of_ofText? (h : 0 < Text.indentation row) (hline : Line.ofText? row = some line) :
    line.indented = true := by
  obtain ⟨ink, hrow⟩ := Text.exists_eq_replicate row
  rw [hrow, ofText?_replicate h] at hline
  obtain ⟨l, -, rfl⟩ := Option.map_eq_some_iff.1 hline
  rfl

/-! ### Lines among rows -/

/-- The lines that count among rows from which some columns are taken off. -/
def linesPast (n : Nat) (pieces : List (List Char)) : List Line :=
  pieces.filterMap fun row => Line.ofText? (row.drop n)

theorem significantLines_eq_linesPast (h : Text.Plain s) :
    significantLines s = linesPast (Text.margin (Text.rows s)) (Text.rows s) :=
  Text.filterMap_flushLines_drop h fun _ => ofText?_of_not_inked

theorem linesPast_of_not_inked (h : ∀ row ∈ pieces, Text.isInked row = false) :
    linesPast n pieces = [] :=
  List.filterMap_eq_nil_iff.2 fun row hrow => ofText?_of_not_inked (Text.isInked_drop (h row hrow) n)

/-- If less is taken off than all rows are indented, all lines are indented. -/
theorem indented_of_mem_linesPast
    (h : ∀ row ∈ pieces, Text.isInked row = true → n < Text.indentation row)
    (hline : line ∈ linesPast n pieces) : line.indented = true := by
  obtain ⟨row, hrow, hline⟩ := List.mem_filterMap.1 hline
  cases hinked : Text.isInked row with
  | false =>
    have hnone := ofText?_of_not_inked (Text.isInked_drop hinked n)
    exact absurd (hnone.symm.trans hline) (by simp)
  | true =>
    have hlt := h row hrow hinked
    rw [ofText?_drop hlt] at hline
    exact indented_of_ofText? (by omega) hline

/-- Lines none of which is at column zero belong to no production. -/
theorem outcome_of_indented (h : ∀ line ∈ significantLines s, line.indented = true) :
    outcome s = match significantLines s with
      | [] => .ok []
      | line :: _ => .error (.indentedOutside line.text) := by
  rw [outcome_eq_parseElements, parseElements]
  cases hlines : significantLines s with
  | nil => rfl
  | cons line lines =>
    have hline : line.indented = true := h line (by simp [hlines])
    simp [blocks, hline]

/-! ### Rows beyond the margin -/

/-- Two rows that are the same, or that differ in how far they are indented beyond a margin. -/
inductive Shifted (margin : Nat) : List Char → List Char → Prop
  | same (row : List Char) : Shifted margin row row
  | deeper {n n' : Nat} {ink : List Char} (h : margin < n) (h' : margin < n') :
      Shifted margin (List.replicate n ' ' ++ ink) (List.replicate n' ' ' ++ ink)

namespace Shifted

variable {margin : Nat} {row' : List Char} {pieces' : List (List Char)}

theorem mem_or_eq {c : Char} (h : Shifted margin row row') (hc : c ∈ row') : c = ' ' ∨ c ∈ row := by
  cases h with
  | same => exact .inr hc
  | deeper =>
    rcases List.mem_append.1 hc with hc | hc
    · exact .inl (List.eq_of_mem_replicate hc)
    · exact .inr (List.mem_append_right _ hc)

theorem ofText?_eq (h : Shifted margin row row') :
    Line.ofText? (row.drop margin) = Line.ofText? (row'.drop margin) := by
  cases h with
  | same => rfl
  | @deeper n n' ink h h' =>
    have hdrop : ∀ k, margin < k → Line.ofText? ((List.replicate k ' ' ++ ink).drop margin) =
        (Line.ofText? ink).map fun line => { line with indented := true } := fun k hk => by
      rw [ofText?_drop (by rw [Text.indentation_replicate]; omega), ofText?_replicate (by omega)]
    rw [hdrop n h, hdrop n' h']

theorem linesPast_eq (h : List.Forall₂ (Shifted margin) pieces pieces') :
    linesPast margin pieces = linesPast margin pieces' := by
  induction h with
  | nil => rfl
  | cons hrow _ ih =>
    simp only [linesPast, List.filterMap_cons, hrow.ofText?_eq] at ih ⊢
    rw [ih]

theorem isInked_eq (h : Shifted margin row row') : Text.isInked row' = Text.isInked row := by
  cases h with
  | same => rfl
  | deeper => rw [Text.isInked_replicate, Text.isInked_replicate]

/-- A row that moves is beyond the margin before and after. -/
theorem eq_or_lt (h : Shifted margin row row') :
    row = row' ∨ margin < Text.indentation row ∧ margin < Text.indentation row' := by
  cases h with
  | same => exact .inl rfl
  | deeper h h' =>
    rw [Text.indentation_replicate, Text.indentation_replicate]
    exact .inr ⟨by omega, by omega⟩

/-- A row at the margin stays there, so the margin does. -/
theorem margin_eq (h : List.Forall₂ (Shifted (Text.margin pieces)) pieces pieces') :
    Text.margin pieces' = Text.margin pieces := by
  have hback : ∀ row' ∈ pieces', ∃ row ∈ pieces, Shifted (Text.margin pieces) row row' :=
    exists_mem_of_forall₂ h.flip
  by_cases hinked : ∃ row ∈ pieces, Text.isInked row = true
  · obtain ⟨row, hrow, hinked⟩ := hinked
    obtain ⟨l, hl, hlinked, hmargin⟩ := Text.exists_indentation_eq_margin hrow hinked
    obtain ⟨l', hl', hshift⟩ := exists_mem_of_forall₂ h l hl
    -- A row at the margin is not beyond it, so it is still there and bounds the margin from above.
    have hsame : l = l' := hshift.eq_or_lt.resolve_right fun hlt => by omega
    subst hsame
    rw [← hmargin]
    refine Text.margin_eq_indentation hl' hlinked fun row' hrow' hinked' => ?_
    obtain ⟨row, hrow, hshift⟩ := hback row' hrow'
    rw [hshift.isInked_eq] at hinked'
    rcases hshift.eq_or_lt with rfl | ⟨-, hlt⟩
    · exact hmargin ▸ Text.margin_le hrow hinked'
    · omega
  · have hblank : ∀ row ∈ pieces, Text.isInked row = false := by simpa using hinked
    rw [Text.margin_of_not_inked hblank, Text.margin_of_not_inked]
    intro row' hrow'
    obtain ⟨row, hrow, hshift⟩ := hback row' hrow'
    rw [hshift.isInked_eq, hblank row hrow]

theorem oneLine (h : Shifted margin row row') (hrow : Text.OneLine row) : Text.OneLine row' where
  noTab := fun htab => (h.mem_or_eq htab).elim (by decide) hrow.noTab
  noEnd := by
    intro c hc
    rcases h.mem_or_eq hc with rfl | hc
    · decide
    · exact hrow.noEnd c hc

end Shifted

/-- How far rows are indented beyond the margin does not matter. -/
theorem outcome_of_shifted (h : Text.Plain s)
    (hrows : List.Forall₂ (Shifted (Text.margin (Text.rows s))) (Text.rows s) pieces) :
    outcome (Text.joinWith ['\n'] pieces) = outcome s := by
  have hline : ∀ row' ∈ pieces, Text.OneLine row' := by
    intro row' hrow'
    obtain ⟨row, hrow, hshift⟩ := exists_mem_of_forall₂ hrows.flip row' hrow'
    exact hshift.oneLine (h.oneLine_of_mem_rows hrow)
  have hne : pieces ≠ [] := by
    rintro rfl
    exact Text.rows_ne_nil s (List.forall₂_nil_right_iff.1 hrows)
  have hpieces : Text.rows (Text.joinWith ['\n'] pieces) = pieces :=
    Text.rows_joinWith hne fun piece hpiece => (hline piece hpiece).not_mem_feed
  apply outcome_congr
  rw [significantLines_eq_linesPast (Text.plain_joinWith hline), significantLines_eq_linesPast h,
    hpieces, Shifted.margin_eq hrows, Shifted.linesPast_eq hrows]

/-- The depth at which a text is indented does not matter, and neither does that of its rows beyond the
margin. Spaces in front of all rows that hold something change no line of a text without tabs, and so not
what it is read as. If moreover only line feeds end lines in it, rows beyond the margin may be moved to
any other depth beyond it. -/
theorem depth_immaterial :
    (∀ k s, '\t' ∉ s →
      Text.flushLines (Text.indent k s) = Text.flushLines s ∧ outcome (Text.indent k s) = outcome s) ∧
    ∀ s pieces, Text.Plain s →
      List.Forall₂ (Shifted (Text.margin (Text.rows s))) (Text.rows s) pieces →
        outcome (Text.joinWith ['\n'] pieces) = outcome s := by
  refine ⟨fun k s hs => ?_, fun s pieces hs hrows => outcome_of_shifted hs hrows⟩
  have hlines := Text.flushLines_indent k hs
  exact ⟨hlines, outcome_congr (by rw [significantLines, significantLines, hlines])⟩

/-- The rows of a production that is set in, with a row of spaces in it and a second one below. -/
def deepRows : List (List Char) :=
  ["  A :".toList, " ".toList, "    `b`".toList, "".toList, "  C : `d`".toList]

/-- The same rows with the body of the first production further in. -/
def deeperRows : List (List Char) :=
  ["  A :".toList, " ".toList, "         `b`".toList, "".toList, "  C : `d`".toList]

theorem depth_immaterial_deepRows :
    Text.Plain (Text.joinWith ['\n'] deepRows) ∧
      outcome (Text.indent 3 (Text.joinWith ['\n'] deepRows)) =
        outcome (Text.joinWith ['\n'] deepRows) ∧
      outcome (Text.joinWith ['\n'] deeperRows) = outcome (Text.joinWith ['\n'] deepRows) := by
  have hplain : Text.Plain (Text.joinWith ['\n'] deepRows) := by decide
  have hrows : Text.rows (Text.joinWith ['\n'] deepRows) = deepRows := by decide
  have hmargin : Text.margin deepRows = 2 := by decide
  have hshift : List.Forall₂ (Shifted 2) deepRows deeperRows :=
    .cons (.same _) (.cons (.same _) (.cons
      (@Shifted.deeper 2 4 9 "`b`".toList (by decide) (by decide))
      (.cons (.same _) (.cons (.same _) .nil))))
  rw [← hmargin] at hshift
  have hshift' := hrows.symm ▸ hshift
  exact ⟨hplain, (depth_immaterial.1 3 _ hplain.noTab).2, depth_immaterial.2 _ _ hplain hshift'⟩

end SpecGrammar.Notation
