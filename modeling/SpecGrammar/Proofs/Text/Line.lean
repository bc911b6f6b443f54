import SpecGrammar.Proofs.Text.Blank
import SpecGrammar.Text.Line

/-!
# Lines

* `rows`: the pieces of a text between its line feeds;
* `rows_join`: the rows of two texts with a line feed between them;
* `margin_eq_indentation`: the margin is the indentation of a line that holds something if no such line
  is indented less;
* `splitLines_append_of_cons`: what ends no line belongs to the line that follows;
* `filterMap_flushLines_drop`: in a text without tabs, in which only line feeds end lines, what comes of
  the lines comes of the rows without the margin, as long as blank ones give nothing;
* `unifyNewlines_eq_self_iff`: which texts are left alone when carriage returns become line feeds.
-/

namespace SpecGrammar.Text

/-- A text without tabs in which no character but the line feed ends a line. -/
structure Plain (s : List Char) : Prop where
  noTab : '\t' ∉ s
  lineEnds : ∀ c ∈ s, isLineEnd c = true → c = '\n'

/-- A text without tabs in which no character ends a line. -/
structure OneLine (s : List Char) : Prop where
  noTab : '\t' ∉ s
  noEnd : ∀ c ∈ s, isLineEnd c = false

/-- The pieces of a text between its line feeds. -/
def rows (s : List Char) : List (List Char) := splitWhen (· == '\n') s

variable {s t : List Char}

theorem lineEnds_iff : (∀ c ∈ s, isLineEnd c = true → c = '\n') ↔
    s.all (fun c => !isLineEnd c || c == '\n') = true := by
  simp only [List.all_eq_true, Bool.or_eq_true, Bool.not_eq_true', beq_iff_eq]
  refine forall₂_congr fun c _ => ?_
  cases isLineEnd c <;> simp

theorem plain_iff :
    Plain s ↔ '\t' ∉ s ∧ s.all (fun c => !isLineEnd c || c == '\n') = true :=
  ⟨fun h => ⟨h.noTab, lineEnds_iff.1 h.lineEnds⟩, fun h => ⟨h.1, lineEnds_iff.2 h.2⟩⟩

theorem oneLine_iff : OneLine s ↔ '\t' ∉ s ∧ s.all (fun c => !isLineEnd c) = true := by
  have hends : s.all (fun c => !isLineEnd c) = true ↔ ∀ c ∈ s, isLineEnd c = false := by simp
  exact ⟨fun h => ⟨h.noTab, hends.2 h.noEnd⟩, fun h => ⟨h.1, hends.1 h.2⟩⟩

instance (s : List Char) : Decidable (Plain s) := decidable_of_iff _ plain_iff.symm

instance (s : List Char) : Decidable (OneLine s) := decidable_of_iff _ oneLine_iff.symm

theorem Plain.join (hs : Plain s) (ht : Plain t) : Plain (s ++ '\n' :: t) where
  noTab := by simpa using ⟨hs.noTab, ht.noTab⟩
  lineEnds := by
    intro c hc hend
    rcases List.mem_append.1 hc with hc | hc
    · exact hs.lineEnds c hc hend
    · rcases List.mem_cons.1 hc with rfl | hc
      · rfl
      · exact ht.lineEnds c hc hend

/-! ### Rows -/

theorem rows_join (s t : List Char) : rows (s ++ '\n' :: t) = rows s ++ rows t :=
  splitWhen_append (by simp) s t

/-- A row of a text in which only line feeds end lines is one line. -/
theorem Plain.oneLine_of_mem_rows (h : Plain s) {row : List Char} (hrow : row ∈ rows s) :
    OneLine row where
  noTab := fun htab => h.noTab (mem_of_mem_splitWhen hrow htab).1
  noEnd := by
    intro c hc
    obtain ⟨hmem, hne⟩ := mem_of_mem_splitWhen hrow hc
    by_contra hend
    obtain rfl := h.lineEnds c hmem (by simpa using hend)
    exact absurd hne (by simp)

theorem OneLine.not_mem_feed (h : OneLine s) : '\n' ∉ s :=
  fun hfeed => absurd (h.noEnd _ hfeed) (by decide)

theorem OneLine.append (hs : OneLine s) (ht : OneLine t) : OneLine (s ++ t) where
  noTab := by simpa using ⟨hs.noTab, ht.noTab⟩
  noEnd := fun c hc => (List.mem_append.1 hc).elim (hs.noEnd c) (ht.noEnd c)

theorem oneLine_joinWith {sep : Char} {pieces : List (List Char)} (hsep : OneLine [sep])
    (h : ∀ piece ∈ pieces, OneLine piece) : OneLine (joinWith [sep] pieces) := by
  induction pieces with
  | nil => exact ⟨by simp [joinWith], by simp [joinWith]⟩
  | cons piece pieces ih =>
    obtain ⟨hpiece, hpieces⟩ := List.forall_mem_cons.1 h
    by_cases hlast : pieces = []
    · subst hlast
      exact hpiece
    · rw [joinWith_cons hlast]
      exact (hpiece.append hsep).append (ih hpieces)

theorem plain_joinWith {pieces : List (List Char)} (h : ∀ piece ∈ pieces, OneLine piece) :
    Plain (joinWith ['\n'] pieces) where
  noTab := not_mem_joinWith (by decide) fun piece hpiece => (h piece hpiece).noTab
  lineEnds := by
    intro c hc hend
    by_contra hfeed
    refine not_mem_joinWith (List.mem_singleton.not.2 hfeed) (fun piece hpiece hmem => ?_) hc
    exact absurd ((h piece hpiece).noEnd c hmem) (by simp [hend])

/-! ### Tabs and margin -/

theorem expandTabsFrom_of_not_mem (h : '\t' ∉ s) (column : Nat) : expandTabsFrom column s = s := by
  induction s generalizing column with
  | nil => rfl
  | cons c r ih =>
    obtain ⟨hc, hr⟩ := not_or.1 (List.mem_cons.not.1 h)
    rw [expandTabsFrom, if_neg (by simpa using Ne.symm hc)]
    split <;> rw [ih hr]

theorem expandTabs_of_not_mem (h : '\t' ∉ s) : expandTabs s = s :=
  expandTabsFrom_of_not_mem h 0

section Margin

variable {lines : List (List Char)} {line : List Char}

theorem margin_eq_min? (lines : List (List Char)) :
    margin lines = ((lines.filter isInked).map indentation).min?.getD 0 := by
  unfold margin
  split <;> rename_i heq <;> rw [heq]
  · rfl
  · rw [List.min?_cons', Option.getD_some]

/-- No line that holds something is indented less than the margin. -/
theorem margin_le (hline : line ∈ lines) (hinked : isInked line = true) :
    margin lines ≤ indentation line := by
  rw [margin_eq_min?]
  exact List.min?_getD_le_of_mem (List.mem_map_of_mem (List.mem_filter.2 ⟨hline, hinked⟩))

/-- One of them is indented just as far. -/
theorem exists_indentation_eq_margin (hline : line ∈ lines) (hinked : isInked line = true) :
    ∃ l ∈ lines, isInked l = true ∧ indentation l = margin lines := by
  have hne : (lines.filter isInked).map indentation ≠ [] :=
    List.ne_nil_of_mem (List.mem_map_of_mem (List.mem_filter.2 ⟨hline, hinked⟩))
  obtain ⟨n, hn⟩ := Option.ne_none_iff_exists'.1 (List.min?_eq_none_iff.not.2 hne)
  obtain ⟨l, hl, rfl⟩ := List.mem_map.1 (List.min?_mem hn)
  obtain ⟨hmem, hl⟩ := List.mem_filter.1 hl
  exact ⟨l, hmem, hl, by rw [margin_eq_min?, hn, Option.getD_some]⟩

/-- The indentation of a line that holds something is the margin if no other such line is indented
less. -/
theorem margin_eq_indentation (hline : line ∈ lines) (hinked : isInked line = true)
    (hle : ∀ l ∈ lines, isInked l = true → indentation line ≤ indentation l) :
    margin lines = indentation line := by
  obtain ⟨l, hl, hlinked, hmargin⟩ := exists_indentation_eq_margin hline hinked
  exact le_antisymm (margin_le hline hinked) (hmargin ▸ hle l hl hlinked)

/-- Lines that hold nothing have no margin. -/
theorem margin_of_not_inked (h : ∀ line ∈ lines, isInked line = false) : margin lines = 0 := by
  have hnone : lines.filter isInked = [] :=
    List.filter_eq_nil_iff.2 fun line hline => by simp [h line hline]
  rw [margin_eq_min?, hnone]
  rfl

theorem margin_eq_zero (hline : line ∈ lines) (hinked : isInked line = true)
    (hflush : indentation line = 0) : margin lines = 0 :=
  Nat.le_zero.1 (hflush ▸ margin_le hline hinked)

theorem blank_of_not_inked (h : isInked line = false) : Blank line := by
  intro c hc
  obtain rfl : c = ' ' := by simpa using List.any_eq_false.1 h c hc
  decide

theorem isInked_drop (h : isInked line = false) (n : Nat) : isInked (line.drop n) = false :=
  List.any_eq_false.2 fun c hc => List.any_eq_false.1 h c (List.mem_of_mem_drop hc)

end Margin

/-! ### Lines -/

section Lines

variable {row : List Char} {pieces : List (List Char)}

/-- Characters that end no line belong to the line that follows them. -/
theorem splitLines_append_of_cons {t first : List Char} {rest : List (List Char)}
    (h : ∀ c ∈ row, isLineEnd c = false) (ht : splitLines t = first :: rest) :
    splitLines (row ++ t) = (row ++ first) :: rest := by
  induction row with
  | nil => exact ht
  | cons c r ih =>
    obtain ⟨hc, hr⟩ := List.forall_mem_cons.1 h
    -- the first of a carriage return and a line feed in a row would end a line itself
    have hreturn : c ≠ '\r' := by
      rintro rfl
      exact absurd hc (by decide)
    rw [List.cons_append, splitLines, ih hr]
    · simp [hc]
    · rintro _ rfl
      exact absurd rfl hreturn

theorem splitLines_append_feed (h : ∀ c ∈ row, isLineEnd c = false) (t : List Char) :
    splitLines (row ++ '\n' :: t) = row :: splitLines t := by
  have hfeed : splitLines ('\n' :: t) = [] :: splitLines t := by simp [splitLines, isLineEnd]
  rw [splitLines_append_of_cons h hfeed, List.append_nil]

theorem splitLines_append_return_feed (h : ∀ c ∈ row, isLineEnd c = false) (t : List Char) :
    splitLines (row ++ '\r' :: '\n' :: t) = row :: splitLines t := by
  have hreturn : splitLines ('\r' :: '\n' :: t) = [] :: splitLines t := by rw [splitLines]
  rw [splitLines_append_of_cons h hreturn, List.append_nil]

theorem splitLines_of_not (h : ∀ c ∈ row, isLineEnd c = false) :
    splitLines row = if row = [] then [] else [row] := by
  induction row with
  | nil => rfl
  | cons c r ih =>
    obtain ⟨hc, hr⟩ := List.forall_mem_cons.1 h
    have hreturn : c ≠ '\r' := by
      rintro rfl
      exact absurd hc (by decide)
    rw [splitLines, ih hr]
    · cases r <;> simp [hc]
    · rintro _ rfl
      exact absurd rfl hreturn

/-- Of texts without line ends that are joined by line feeds each is a line, an empty one at the very end
apart. -/
theorem filterMap_splitLines_joinWith {α : Type} {f : List Char → Option α} (hf : f [] = none)
    (h : ∀ piece ∈ pieces, ∀ c ∈ piece, isLineEnd c = false) :
    (splitLines (joinWith ['\n'] pieces)).filterMap f = pieces.filterMap f := by
  induction pieces with
  | nil => rfl
  | cons piece pieces ih =>
    obtain ⟨hpiece, hpieces⟩ := List.forall_mem_cons.1 h
    by_cases hlast : pieces = []
    · subst hlast
      rw [joinWith, splitLines_of_not hpiece]
      split
      case isTrue hnil => rw [hnil, List.filterMap_cons_none hf]
      case isFalse => rfl
    · rw [joinWith_cons hlast, List.append_assoc, List.singleton_append,
        splitLines_append_feed hpiece, List.filterMap_cons, List.filterMap_cons, ih hpieces]

/-- What comes of the lines of a text comes of its rows without the margin. -/
theorem filterMap_flushLines_drop {α : Type} {f : List Char → Option α} (h : Plain s)
    (hf : ∀ row, isInked row = false → f row = none) :
    (flushLines s).filterMap f = (rows s).filterMap fun row => f (row.drop (margin (rows s))) := by
  rw [flushLines, expandTabs_of_not_mem h.noTab, dropMargin,
    filterMap_splitLines_joinWith (hf [] rfl), List.filterMap_map]
  · refine List.filterMap_congr fun row _ => ?_
    cases hrow : isInked row with
    | true => simp [hrow, rows]
    | false => simp [hrow, hf [] rfl, hf _ (isInked_drop hrow _)]
  · intro piece hpiece c hc
    obtain ⟨row, hrow, rfl⟩ := List.mem_map.1 hpiece
    split at hc
    · exact (h.oneLine_of_mem_rows hrow).noEnd c (List.mem_of_mem_drop hc)
    · exact absurd hc (by simp)

/-- What comes of the lines of a text comes of its rows, if a row leaves no margin. -/
theorem filterMap_flushLines {α : Type} {f : List Char → Option α} (h : Plain s)
    (hmargin : margin (rows s) = 0) (hf : ∀ row, isInked row = false → f row = none) :
    (flushLines s).filterMap f = (rows s).filterMap f := by
  rw [filterMap_flushLines_drop h hf, hmargin]
  rfl

end Lines

/-! ### Carriage returns -/

theorem not_mem_unifyNewlines (s : List Char) : '\r' ∉ unifyNewlines s := by
  fun_induction unifyNewlines s with
  | case1 => simp
  | case2 r ih => simpa using ih
  | case3 c r _ ih =>
    rw [List.mem_cons, not_or]
    refine ⟨?_, ih⟩
    split
    · decide
    · next hc => exact fun heq => hc (beq_iff_eq.2 heq.symm)

theorem unifyNewlines_of_not_mem {s : List Char} (h : '\r' ∉ s) : unifyNewlines s = s := by
  fun_induction unifyNewlines s with
  | case1 => rfl
  | case2 r _ => simp at h
  | case3 c r _ ih =>
    rw [List.mem_cons, not_or] at h
    rw [ih h.2, if_neg fun heq => h.1 (beq_iff_eq.1 heq).symm]

/-- Just the texts without carriage returns are left alone. -/
theorem unifyNewlines_eq_self_iff {s : List Char} : unifyNewlines s = s ↔ '\r' ∉ s :=
  ⟨fun h => h ▸ not_mem_unifyNewlines s, unifyNewlines_of_not_mem⟩

end SpecGrammar.Text
