import SpecGrammar.Proofs.Notation.Indentation

/-!
# Rows that undercut the margin

The margin is taken over all rows that hold something, whether or not they count as lines. A row that
does not count, but is indented less than all that do, leaves all lines indented.

* `isComment`, `uncommented`: comments, and a text without them;
* `Undercuts`: a row that is indented less than all others;
* `outcome_uncommented`: a text is read as it is without its comments unless one of them undercuts the
  other rows; then it cannot be read;
* `outcome_withReturns`: a text is read as it is with line feeds alone unless a blank row undercuts the
  other rows; then it cannot be read when carriage returns stand before its line feeds.
-/

namespace SpecGrammar.Notation

/-- A row that is a comment. -/
def isComment (row : List Char) : Bool := commentMark.isPrefixOf (Text.trim row)

/-- The rows of a text that are no comments. -/
def uncommentedRows (s : List Char) : List (List Char) :=
  (Text.rows s).filter fun row => !isComment row

/-- A text without its comments. -/
def uncommented (s : List Char) : List Char := Text.joinWith ['\n'] (uncommentedRows s)

/-- A row that is indented less than all rows of a text that hold something. -/
def Undercuts (row : List Char) (pieces : List (List Char)) : Prop :=
  ∀ r ∈ pieces, Text.isInked r = true → Text.indentation row < Text.indentation r

variable {s t row : List Char} {pieces : List (List Char)} {n : Nat}

instance (row : List Char) (pieces : List (List Char)) : Decidable (Undercuts row pieces) :=
  inferInstanceAs (Decidable (∀ r ∈ pieces, Text.isInked r = true →
    Text.indentation row < Text.indentation r))

/-! ### Two margins -/

theorem exists_le_of_not_undercuts (h : ¬ Undercuts row pieces) :
    ∃ r ∈ pieces, Text.isInked r = true ∧ Text.indentation r ≤ Text.indentation row := by
  simpa [Undercuts] using h

/-- Whether a row is a line, and what it says, does not depend on how much of its indentation is taken
off. -/
theorem map_text_drop (h : n ≤ Text.indentation row) :
    (Line.ofText? (row.drop n)).map (·.text) = (Line.ofText? row).map (·.text) := by
  obtain ⟨ink, hrow, hdrop⟩ := Text.exists_drop_eq_replicate h
  have htext : ∀ k, (Line.ofText? (List.replicate k ' ' ++ ink)).map (·.text) =
      (Line.ofText? ink).map (·.text) := by
    intro k
    cases k with
    | zero => rfl
    | succ k =>
      rw [ofText?_replicate (Nat.succ_pos k), Option.map_map]
      rfl
  rw [hdrop, htext]
  conv_rhs => rw [hrow, htext]

theorem map_text_linesPast (h : ∀ r ∈ pieces, Text.isInked r = true → n ≤ Text.indentation r) :
    (linesPast n pieces).map (·.text) = (pieces.filterMap Line.ofText?).map (·.text) := by
  rw [linesPast, List.map_filterMap, List.map_filterMap]
  refine List.filterMap_congr fun r hr => ?_
  cases hinked : Text.isInked r with
  | false => rw [ofText?_of_not_inked hinked, ofText?_of_not_inked (Text.isInked_drop hinked n)]
  | true => exact map_text_drop (h r hr hinked)

/-- With less taken off than all rows are indented, no line belongs to a production. -/
theorem outcome_of_undercuts (hs : significantLines s = linesPast n pieces)
    (hn : n ≤ Text.indentation row) (h : Undercuts row pieces) :
    ∀ line ∈ (significantLines s).head?, outcome s = .error (.indentedOutside line.text) := by
  have houtcome := outcome_of_indented fun line hline =>
    indented_of_mem_linesPast (fun r hr hinked => hn.trans_lt (h r hr hinked)) (hs ▸ hline)
  intro line hline
  obtain ⟨lines, hlines⟩ := List.head?_eq_some_iff.1 hline
  rwa [hlines] at houtcome

/-- Without lines nothing is read, whatever is taken off the rows. -/
theorem outcomes_of_nil (hs : significantLines s = linesPast n pieces)
    (ht : significantLines t = linesPast (Text.margin pieces) pieces)
    (hn : ∀ r ∈ pieces, Text.isInked r = true → n ≤ Text.indentation r)
    (hnil : significantLines s = []) : outcome s = .ok [] ∧ outcome t = .ok [] := by
  have htexts : (significantLines t).map (·.text) = (significantLines s).map (·.text) := by
    rw [hs, ht, map_text_linesPast hn, map_text_linesPast fun r hr => Text.margin_le hr]
  rw [hnil] at htexts
  have hnone : ∀ {u}, significantLines u = [] → outcome u = .ok [] := fun {u} hu => by
    rw [outcome_eq_parseElements, parseElements, hu]
    rfl
  exact ⟨hnone hnil, hnone (List.map_eq_nil_iff.1 htexts)⟩

/-! ### Comments -/

theorem isInked_of_isComment (h : isComment row = true) : Text.isInked row = true := by
  by_contra hinked
  have hblank : Text.Blank row := Text.blank_of_not_inked (by simpa using hinked)
  rw [isComment, Text.trim_of_blank hblank] at h
  exact absurd h (by decide)

theorem ofText?_of_isComment (h : isComment row = true) : Line.ofText? row = none := by
  rw [isComment] at h
  simp [Line.ofText?, h]

/-- The comments of a text are none of its lines. -/
theorem significantLines_eq_uncommentedRows (h : Text.Plain s) :
    significantLines s = linesPast (Text.margin (Text.rows s)) (uncommentedRows s) := by
  rw [significantLines_eq_linesPast h, linesPast, linesPast, uncommentedRows, List.filterMap_filter]
  refine List.filterMap_congr fun row hrow => ?_
  cases hcomment : isComment row with
  | false => rfl
  | true =>
    -- The margin is at most as wide as the comment is indented, so what is left is the comment still.
    have hle := Text.margin_le hrow (isInked_of_isComment hcomment)
    have hnone := map_text_drop hle
    rw [ofText?_of_isComment hcomment] at hnone
    simpa using hnone

theorem significantLines_uncommented (h : Text.Plain s) :
    significantLines (uncommented s) =
      linesPast (Text.margin (uncommentedRows s)) (uncommentedRows s) := by
  by_cases hne : uncommentedRows s = []
  · rw [uncommented, hne]
    rfl
  · have hline : ∀ row ∈ uncommentedRows s, Text.OneLine row := fun row hrow =>
      h.oneLine_of_mem_rows (List.mem_filter.1 hrow).1
    have hrows : Text.rows (uncommented s) = uncommentedRows s :=
      Text.rows_joinWith hne fun row hrow => (hline row hrow).not_mem_feed
    rw [significantLines_eq_linesPast (s := uncommented s) (Text.plain_joinWith hline), hrows]

/-- A comment that is indented less than all other rows of its text that hold something. -/
def CommentUndercuts (s : List Char) : Prop :=
  ∃ row ∈ Text.rows s, isComment row = true ∧ Undercuts row (uncommentedRows s)

instance (s : List Char) : Decidable (CommentUndercuts s) :=
  inferInstanceAs (Decidable (∃ row ∈ Text.rows s, isComment row = true ∧
    Undercuts row (uncommentedRows s)))

/-- The margin is that of the rows that are no comments, unless a comment undercuts them. -/
theorem margin_uncommentedRows (h : ¬ CommentUndercuts s) (hrow : row ∈ uncommentedRows s)
    (hinked : Text.isInked row = true) :
    Text.margin (Text.rows s) = Text.margin (uncommentedRows s) := by
  obtain ⟨l, hl, hlinked, hmargin⟩ := Text.exists_indentation_eq_margin hrow hinked
  rw [← hmargin]
  refine Text.margin_eq_indentation (List.mem_filter.1 hl).1 hlinked fun r hr hrinked => ?_
  rw [hmargin]
  cases hcomment : isComment r with
  | false => exact Text.margin_le (List.mem_filter.2 ⟨hr, by simp [hcomment]⟩) hrinked
  | true =>
    obtain ⟨q, hq, hqinked, hle⟩ :=
      exists_le_of_not_undercuts fun hunder => h ⟨r, hr, hcomment, hunder⟩
    exact (Text.margin_le hq hqinked).trans hle

/-- Unless a comment undercuts the other rows, a text is read as it is without its comments. If one does,
the text cannot be read, save that it has no lines at all: then nothing is read either way. -/
theorem outcome_uncommented (h : Text.Plain s) :
    (¬ CommentUndercuts s → outcome (uncommented s) = outcome s) ∧
      (CommentUndercuts s → ∀ line ∈ (significantLines s).head?,
        outcome s = .error (.indentedOutside line.text)) ∧
      (significantLines s = [] → outcome s = .ok [] ∧ outcome (uncommented s) = .ok []) := by
  have hs := significantLines_eq_uncommentedRows h
  have hu := significantLines_uncommented h
  refine ⟨fun hunder => ?_, ?_, outcomes_of_nil hs hu ?_⟩
  · apply outcome_congr
    rw [hs, hu]
    by_cases hinked : ∃ row ∈ uncommentedRows s, Text.isInked row = true
    · obtain ⟨row, hrow, hinked⟩ := hinked
      rw [margin_uncommentedRows hunder hrow hinked]
    · have hblank : ∀ row ∈ uncommentedRows s, Text.isInked row = false := by simpa using hinked
      rw [linesPast_of_not_inked hblank, linesPast_of_not_inked hblank]
  · rintro ⟨row, hrow, hcomment, hunder⟩
    exact outcome_of_undercuts hs (Text.margin_le hrow (isInked_of_isComment hcomment)) hunder
  · exact fun r hr => Text.margin_le (List.mem_filter.1 hr).1

/-- A production that is set in, with a comment at column zero above it. -/
def overhung : List Char := "// a\n  B :\n\n    `c`".toList

/-- The same production with the comment above it set in as far. -/
def aligned : List Char := "  // a\n  B :\n\n    `c`".toList

theorem outcome_uncommented_overhung :
    (Text.Plain overhung ∧ CommentUndercuts overhung ∧
      outcome overhung = .error (.indentedOutside "B :".toList)) ∧
    Text.Plain aligned ∧ ¬ CommentUndercuts aligned ∧
      uncommented aligned = uncommented overhung ∧
        outcome (uncommented aligned) = outcome aligned := by
  have hoverhung : Text.Plain overhung := by decide
  have haligned : Text.Plain aligned := by decide
  have hunder : CommentUndercuts overhung := by decide
  have hnot : ¬ CommentUndercuts aligned := by decide
  have hline : (significantLines overhung).head? = some ⟨true, "B :".toList⟩ := by decide
  exact ⟨⟨hoverhung, hunder, (outcome_uncommented hoverhung).2.1 hunder _ hline⟩, haligned, hnot,
    by decide, (outcome_uncommented haligned).1 hnot⟩

/-! ### Carriage returns -/

/-- A row of spaces before a line feed that is shorter than all rows that hold something are
indented. -/
def BlankUndercuts (s : List Char) : Prop :=
  ∃ row ∈ (Text.rows s).dropLast, Text.isInked row = false ∧ Undercuts row (Text.rows s)

instance (s : List Char) : Decidable (BlankUndercuts s) :=
  inferInstanceAs (Decidable (∃ row ∈ (Text.rows s).dropLast, Text.isInked row = false ∧
    Undercuts row (Text.rows s)))

theorem significantLines_expandTabs (s : List Char) :
    significantLines (Text.expandTabs s) = significantLines s := by
  rw [significantLines, significantLines, Text.flushLines, Text.flushLines, Text.expandTabs_expandTabs]

theorem significantLines_withReturns (h : ∀ c ∈ s, Text.isLineEnd c = true → c = '\n') :
    significantLines (Text.withReturns s) =
      linesPast (Text.margin (Text.returned (Text.rows (Text.expandTabs s))))
        (Text.rows (Text.expandTabs s)) := by
  have hlines := Text.filterMap_flushLines_withReturns (Text.plain_expandTabs h)
    fun _ => ofText?_of_not_inked
  rw [← Text.expandTabs_withReturns] at hlines
  rw [← significantLines_expandTabs]
  exact hlines

/-- Unless a blank row undercuts the others, a text in which only line feeds end lines is read as it is
with carriage returns before its line feeds. If one does, the text cannot be read with the carriage
returns, save that it has no lines at all: then nothing is read either way. -/
theorem outcome_withReturns (h : ∀ c ∈ s, Text.isLineEnd c = true → c = '\n') :
    (¬ BlankUndercuts (Text.expandTabs s) → outcome (Text.withReturns s) = outcome s) ∧
      (BlankUndercuts (Text.expandTabs s) → ∀ line ∈ (significantLines (Text.withReturns s)).head?,
        outcome (Text.withReturns s) = .error (.indentedOutside line.text)) ∧
      (significantLines (Text.withReturns s) = [] →
        outcome (Text.withReturns s) = .ok [] ∧ outcome s = .ok []) := by
  have hr := significantLines_withReturns h
  have hs : significantLines s = linesPast (Text.margin (Text.rows (Text.expandTabs s)))
      (Text.rows (Text.expandTabs s)) := by
    rw [← significantLines_expandTabs, significantLines_eq_linesPast (Text.plain_expandTabs h)]
  refine ⟨fun hunder => ?_, ?_, outcomes_of_nil hr hs ?_⟩
  · apply outcome_congr
    rw [hr, hs]
    by_cases hinked : ∃ row ∈ Text.rows (Text.expandTabs s), Text.isInked row = true
    · obtain ⟨row, hrow, hinked⟩ := hinked
      rw [Text.margin_returned hrow hinked]
      intro r hr hblank
      obtain ⟨q, hq, hqinked, hle⟩ :=
        exists_le_of_not_undercuts fun hr' => hunder ⟨r, hr, hblank, hr'⟩
      exact (Text.margin_le hq hqinked).trans (hle.trans (Text.indentation_le_length r))
    · have hblank : ∀ row ∈ Text.rows (Text.expandTabs s), Text.isInked row = false := by
        simpa using hinked
      rw [linesPast_of_not_inked hblank, linesPast_of_not_inked hblank]
  · rintro ⟨row, hrow, -, hunder⟩
    exact outcome_of_undercuts hr (Text.margin_returned_le hrow) hunder
  · exact fun r hr => Text.margin_returned_le_of_inked hr

/-- A production that is set in by a tab, with an empty row in it. -/
def gaping : List Char := "\tB :\n\n\t  `c`".toList

/-- The same production with spaces in the row that holds nothing. -/
def padded : List Char := "\tB :\n\t\n\t  `c`".toList

theorem outcome_withReturns_gaping :
    ((∀ c ∈ gaping, Text.isLineEnd c = true → c = '\n') ∧ BlankUndercuts (Text.expandTabs gaping) ∧
      outcome (Text.withReturns gaping) = .error (.indentedOutside "B :".toList)) ∧
    (∀ c ∈ padded, Text.isLineEnd c = true → c = '\n') ∧ ¬ BlankUndercuts (Text.expandTabs padded) ∧
      outcome (Text.withReturns padded) = outcome padded := by
  have hgaping : ∀ c ∈ gaping, Text.isLineEnd c = true → c = '\n' :=
    Text.lineEnds_iff.2 (by decide)
  have hpadded : ∀ c ∈ padded, Text.isLineEnd c = true → c = '\n' :=
    Text.lineEnds_iff.2 (by decide)
  have hunder : BlankUndercuts (Text.expandTabs gaping) := by decide
  have hnot : ¬ BlankUndercuts (Text.expandTabs padded) := by decide
  have hline : (significantLines (Text.withReturns gaping)).head? = some ⟨true, "B :".toList⟩ := by
    decide
  exact ⟨⟨hgaping, hunder, (outcome_withReturns hgaping).2.1 hunder _ hline⟩, hpadded, hnot,
    (outcome_withReturns hpadded).1 hnot⟩

end SpecGrammar.Notation
