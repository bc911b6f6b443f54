import SpecGrammar.Proofs.Text.Line

/-!
# Rows indented further, and rows that end with carriage returns

* `flushLines_indent`: spaces in front of all rows that hold something change no line;
* `rows_withReturns`, `expandTabs_withReturns`: the rows of a text in which carriage returns stand before
  the line feeds;
* `margin_returned`: a carriage return makes a blank row count for the margin, so the margin is the same
  if no blank row is shorter;
* `filterMap_flushLines_withReturns`: what comes of the lines of such a text.
-/

namespace SpecGrammar.Text

variable {s row ink : List Char} {pieces lines : List (List Char)} {n : Nat}

/-! ### Rows -/

theorem rows_joinWith (hne : pieces ≠ []) (h : ∀ piece ∈ pieces, '\n' ∉ piece) :
    rows (joinWith ['\n'] pieces) = pieces :=
  splitWhen_joinWith hne h

theorem joinWith_rows (s : List Char) : joinWith ['\n'] (rows s) = s :=
  joinWith_splitWhen s

theorem rows_ne_nil (s : List Char) : rows s ≠ [] :=
  splitWhen_ne_nil _ s

theorem not_mem_of_mem_rows (h : row ∈ rows s) : '\n' ∉ row :=
  fun hc => absurd (mem_of_mem_splitWhen h hc).2 (by simp)

/-! ### Indentation -/

theorem indentation_replicate (n : Nat) (ink : List Char) :
    indentation (List.replicate n ' ' ++ ink) = n + indentation ink := by
  rw [indentation, List.takeWhile_append_of_pos fun c hc => by simp [List.eq_of_mem_replicate hc],
    List.length_append, List.length_replicate]
  rfl

theorem isInked_replicate (n : Nat) (ink : List Char) :
    isInked (List.replicate n ' ' ++ ink) = isInked ink := by
  have hblank : isInked (List.replicate n ' ') = false :=
    List.any_eq_false.2 fun c hc => by simp [List.eq_of_mem_replicate hc]
  rw [isInked, List.any_append]
  exact (congrArg (· || isInked ink) hblank).trans (Bool.false_or _)

/-- A row is the spaces that it is indented by, and the rest. -/
theorem exists_eq_replicate (row : List Char) :
    ∃ ink, row = List.replicate (indentation row) ' ' ++ ink := by
  refine ⟨row.dropWhile (· == ' '), ?_⟩
  have hspaces : row.takeWhile (· == ' ') = List.replicate (indentation row) ' ' :=
    List.eq_replicate_iff.2 ⟨rfl, fun c hc => by simpa using List.mem_takeWhile_imp hc⟩
  rw [← hspaces, List.takeWhile_append_dropWhile]

/-- Of a row from which no more than its indentation is taken off, some of the spaces are left. -/
theorem exists_drop_eq_replicate (h : n ≤ indentation row) :
    ∃ ink, row = List.replicate (indentation row) ' ' ++ ink ∧
      row.drop n = List.replicate (indentation row - n) ' ' ++ ink := by
  obtain ⟨ink, hrow⟩ := exists_eq_replicate row
  refine ⟨ink, hrow, ?_⟩
  conv_lhs => rw [hrow]
  rw [List.drop_append_of_le_length (by simpa using h), List.drop_replicate]

theorem indentation_le_length (row : List Char) : indentation row ≤ row.length :=
  (List.takeWhile_prefix _).length_le

theorem indentation_of_not_inked (h : isInked row = false) : indentation row = row.length := by
  have hall : ∀ c ∈ row, (c == ' ') = true := fun c hc => by
    simpa using List.any_eq_false.1 h c hc
  rw [indentation, List.takeWhile_eq_self_iff.2 hall]

/-! ### Spaces in front of all rows -/

/-- Puts spaces in front of every row that holds something. -/
def indent (k : Nat) (s : List Char) : List Char :=
  joinWith ['\n'] ((rows s).map fun row => if isInked row then List.replicate k ' ' ++ row else row)

theorem rows_indent (k : Nat) (s : List Char) :
    rows (indent k s) =
      (rows s).map fun row => if isInked row then List.replicate k ' ' ++ row else row := by
  refine rows_joinWith (by simpa using rows_ne_nil s) fun piece hpiece => ?_
  obtain ⟨row, hrow, rfl⟩ := List.mem_map.1 hpiece
  have hfeed := not_mem_of_mem_rows hrow
  split
  · simpa using hfeed
  · exact hfeed

theorem margin_indent {k : Nat} (hrow : row ∈ rows s) (hinked : isInked row = true) :
    margin (rows (indent k s)) = k + margin (rows s) := by
  obtain ⟨l, hl, hlinked, hmargin⟩ := exists_indentation_eq_margin hrow hinked
  have hmem : List.replicate k ' ' ++ l ∈ rows (indent k s) := by
    rw [rows_indent]
    exact List.mem_map.2 ⟨l, hl, if_pos hlinked⟩
  rw [← hmargin, ← indentation_replicate]
  refine margin_eq_indentation hmem (by rwa [isInked_replicate]) fun r hr hrinked => ?_
  rw [rows_indent] at hr
  obtain ⟨q, hq, rfl⟩ := List.mem_map.1 hr
  split at hrinked
  case isTrue hqinked =>
    rw [if_pos hqinked, indentation_replicate, indentation_replicate, hmargin]
    exact Nat.add_le_add_left (margin_le hq hqinked) k
  case isFalse hblank => exact absurd hrinked hblank

/-- Spaces in front of all rows that hold something belong to the margin. -/
theorem dropMargin_indent (k : Nat) (s : List Char) : dropMargin (indent k s) = dropMargin s := by
  have hdrop : ∀ t, dropMargin t = joinWith ['\n']
      ((rows t).map fun row => if isInked row then row.drop (margin (rows t)) else []) :=
    fun _ => rfl
  rw [hdrop, hdrop s, rows_indent, List.map_map]
  refine congrArg _ (List.map_congr_left fun row hrow => ?_)
  cases hinked : isInked row with
  | false => simp [hinked]
  | true =>
    have hmargin := margin_indent (k := k) hrow hinked
    rw [rows_indent] at hmargin
    simp [hinked, isInked_replicate, hmargin, List.drop_append]

theorem not_mem_indent {c : Char} (hfeed : c ≠ '\n') (hspace : c ≠ ' ') (h : c ∉ s) (k : Nat) :
    c ∉ indent k s := by
  refine not_mem_joinWith (List.mem_singleton.not.2 hfeed) fun piece hpiece => ?_
  obtain ⟨row, hrow, rfl⟩ := List.mem_map.1 hpiece
  have hmem : c ∉ row := fun hc => h (mem_of_mem_splitWhen hrow hc).1
  split
  · simp [hmem, hspace]
  · exact hmem

/-- Spaces in front of all rows that hold something change no line of a text without tabs. -/
theorem flushLines_indent (k : Nat) (h : '\t' ∉ s) : flushLines (indent k s) = flushLines s := by
  have hindent := not_mem_indent (by decide) (by decide) h k
  rw [flushLines, flushLines, expandTabs_of_not_mem h, expandTabs_of_not_mem hindent, dropMargin_indent]

/-! ### Carriage returns before the line feeds -/

/-- Puts a carriage return before every line feed. -/
def withReturns (s : List Char) : List Char :=
  s.flatMap fun c => if c = '\n' then ['\r', '\n'] else [c]

/-- Rows all of which but the last end with a carriage return. -/
def returned (rows : List (List Char)) : List (List Char) :=
  rows.dropLast.map (· ++ ['\r']) ++ rows.getLast?.toList

theorem returned_cons (h : pieces ≠ []) :
    returned (row :: pieces) = (row ++ ['\r']) :: returned pieces := by
  obtain ⟨piece, pieces, rfl⟩ := List.exists_cons_of_ne_nil h
  simp [returned]

theorem returned_ne_nil (h : pieces ≠ []) : returned pieces ≠ [] := by
  simp [returned, h]

theorem withReturns_append (s t : List Char) :
    withReturns (s ++ t) = withReturns s ++ withReturns t :=
  List.flatMap_append

theorem withReturns_of_not_mem (h : '\n' ∉ s) : withReturns s = s := by
  rw [withReturns, List.flatMap_congr (g := fun c => [c]), List.flatMap_singleton']
  rintro c hc
  rw [if_neg]
  rintro rfl
  exact h hc

theorem withReturns_joinWith (h : ∀ piece ∈ pieces, '\n' ∉ piece) :
    withReturns (joinWith ['\n'] pieces) = joinWith ['\n'] (returned pieces) := by
  induction pieces with
  | nil => rfl
  | cons piece pieces ih =>
    obtain ⟨hpiece, hpieces⟩ := List.forall_mem_cons.1 h
    by_cases hlast : pieces = []
    · subst hlast
      exact withReturns_of_not_mem hpiece
    · rw [returned_cons hlast, joinWith_cons (returned_ne_nil hlast), joinWith_cons hlast, ← ih hpieces,
        withReturns_append, withReturns_append, withReturns_of_not_mem hpiece]
      simp [withReturns]

theorem rows_withReturns (s : List Char) : rows (withReturns s) = returned (rows s) := by
  have hfeed : ∀ piece ∈ rows s, '\n' ∉ piece := fun _ => not_mem_of_mem_rows
  conv_lhs => rw [← joinWith_rows s]
  rw [withReturns_joinWith hfeed]
  refine rows_joinWith (returned_ne_nil (rows_ne_nil s)) fun piece hpiece => ?_
  rcases List.mem_append.1 hpiece with hpiece | hpiece
  · obtain ⟨row, hrow, rfl⟩ := List.mem_map.1 hpiece
    simpa using hfeed row ((List.dropLast_sublist _).subset hrow)
  · exact hfeed piece (List.mem_of_getLast? (by simpa using hpiece))

/-! #### Tabs -/

theorem expandTabsFrom_withReturns (column : Nat) (s : List Char) :
    expandTabsFrom column (withReturns s) = withReturns (expandTabsFrom column s) := by
  induction s generalizing column with
  | nil => rfl
  | cons c r ih =>
    have hcons : ∀ d t, withReturns (d :: t) = (if d = '\n' then ['\r', '\n'] else [d]) ++ withReturns t :=
      fun _ _ => rfl
    by_cases hfeed : c = '\n'
    · subst hfeed
      simp [expandTabsFrom, hcons, ih]
    by_cases htab : c = '\t'
    · subst htab
      have hspaces : ∀ n, withReturns (List.replicate n ' ') = List.replicate n ' ' := fun n =>
        withReturns_of_not_mem (by simp)
      simp [expandTabsFrom, hcons, withReturns_append, hspaces, ih]
    · simp only [hcons, expandTabsFrom, ih, if_neg hfeed, htab, beq_iff_eq, List.singleton_append, if_false]
      split <;> simp [hcons, hfeed]

/-- Tabs are as wide with carriage returns before the line feeds as without. -/
theorem expandTabs_withReturns (s : List Char) :
    expandTabs (withReturns s) = withReturns (expandTabs s) :=
  expandTabsFrom_withReturns 0 s

theorem mem_expandTabsFrom {c : Char} {column : Nat} (h : c ∈ expandTabsFrom column s) :
    c = ' ' ∨ c ∈ s ∧ c ≠ '\t' := by
  induction s generalizing column with
  | nil => simp [expandTabsFrom] at h
  | cons d r ih =>
    rw [expandTabsFrom] at h
    split at h
    case isTrue =>
      rcases List.mem_append.1 h with hspace | h
      · exact .inl (List.eq_of_mem_replicate hspace)
      · exact (ih h).imp_right fun hr => ⟨List.mem_cons_of_mem d hr.1, hr.2⟩
    case isFalse htab =>
      have hsplit : c = d ∨ ∃ column, c ∈ expandTabsFrom column r := by
        split at h <;> exact (List.mem_cons.1 h).imp_right fun h => ⟨_, h⟩
      rcases hsplit with rfl | ⟨column, h⟩
      · exact .inr ⟨by simp, by simpa using htab⟩
      · exact (ih h).imp_right fun hr => ⟨List.mem_cons_of_mem d hr.1, hr.2⟩

theorem tab_not_mem_expandTabs (s : List Char) : '\t' ∉ expandTabs s :=
  fun htab => (mem_expandTabsFrom htab).elim (by decide) fun htab => htab.2 rfl

theorem plain_expandTabs (h : ∀ c ∈ s, isLineEnd c = true → c = '\n') : Plain (expandTabs s) where
  noTab := tab_not_mem_expandTabs s
  lineEnds := by
    intro c hc hend
    rcases mem_expandTabsFrom hc with rfl | hc
    · exact absurd hend (by decide)
    · exact h c hc.1 hend

theorem expandTabs_expandTabs (s : List Char) : expandTabs (expandTabs s) = expandTabs s :=
  expandTabs_of_not_mem (tab_not_mem_expandTabs s)

/-! #### The margin -/

theorem mem_returned : row ∈ returned pieces ↔
    (∃ piece ∈ pieces.dropLast, piece ++ ['\r'] = row) ∨ pieces.getLast? = some row := by
  simp only [returned, List.mem_append, List.mem_map, Option.mem_toList]

theorem indentation_append_return (row : List Char) :
    indentation (row ++ ['\r']) = indentation row := by
  rw [indentation, List.takeWhile_append]
  split <;> simp_all [indentation]

theorem isInked_append_return (row : List Char) : isInked (row ++ ['\r']) = true := by
  simp [isInked]

/-- A row before a line feed counts for the margin when it ends with a carriage return. -/
theorem margin_returned_le (h : row ∈ pieces.dropLast) :
    margin (returned pieces) ≤ indentation row :=
  indentation_append_return row ▸
    margin_le (mem_returned.2 (.inl ⟨row, h, rfl⟩)) (isInked_append_return row)

theorem mem_dropLast_or_getLast? (h : row ∈ pieces) :
    row ∈ pieces.dropLast ∨ pieces.getLast? = some row := by
  rcases List.eq_nil_or_concat pieces with rfl | ⟨before, last, rfl⟩
  · exact absurd h (by simp)
  · simpa [eq_comm] using h

theorem margin_returned_le_of_inked (h : row ∈ pieces) (hinked : isInked row = true) :
    margin (returned pieces) ≤ indentation row := by
  rcases mem_dropLast_or_getLast? h with hmem | hlast
  · exact margin_returned_le hmem
  · exact margin_le (mem_returned.2 (.inr hlast)) hinked

/-- The carriage returns leave the margin as it is if no row of spaces before a line feed is shorter. -/
theorem margin_returned (hrow : row ∈ pieces) (hinked : isInked row = true)
    (hblank : ∀ r ∈ pieces.dropLast, isInked r = false → margin pieces ≤ r.length) :
    margin (returned pieces) = margin pieces := by
  obtain ⟨l, hl, hlinked, hmargin⟩ := exists_indentation_eq_margin hrow hinked
  refine le_antisymm (hmargin ▸ margin_returned_le_of_inked hl hlinked) ?_
  -- The new margin is the indentation of a row, which is that of the row without its carriage return.
  have hpiece : ∀ r ∈ pieces.dropLast, margin pieces ≤ indentation r := by
    intro r hr
    cases hrinked : isInked r with
    | true => exact margin_le ((List.dropLast_sublist _).subset hr) hrinked
    | false => exact indentation_of_not_inked hrinked ▸ hblank r hr hrinked
  have hmem : ∃ r ∈ returned pieces, isInked r = true := by
    rcases mem_dropLast_or_getLast? hl with hbefore | hlast
    · exact ⟨_, mem_returned.2 (.inl ⟨l, hbefore, rfl⟩), isInked_append_return l⟩
    · exact ⟨l, mem_returned.2 (.inr hlast), hlinked⟩
  obtain ⟨r, hr, hrinked⟩ := hmem
  obtain ⟨q, hq, hqinked, heq⟩ := exists_indentation_eq_margin hr hrinked
  rw [← heq]
  rcases mem_returned.1 hq with ⟨piece, hpiece', rfl⟩ | hlast
  · exact indentation_append_return piece ▸ hpiece piece hpiece'
  · exact margin_le (List.mem_of_getLast? hlast) hqinked

/-! #### Lines -/

/-- Of rows that end with carriage returns, and from which no more than they are long is taken off, each is
a line. -/
theorem filterMap_splitLines_returned {α : Type} {f : List Char → Option α}
    (hf : ∀ row, isInked row = false → f row = none)
    (hends : ∀ row ∈ pieces, ∀ c ∈ row, isLineEnd c = false)
    (hlength : ∀ row ∈ pieces.dropLast, n ≤ row.length) :
    (splitLines (joinWith ['\n'] ((returned pieces).map fun row =>
        if isInked row then row.drop n else []))).filterMap f =
      pieces.filterMap fun row => f (row.drop n) := by
  induction pieces with
  | nil => rfl
  | cons row pieces ih =>
    obtain ⟨hrow, hpieces⟩ := List.forall_mem_cons.1 hends
    have hdrop : ∀ c ∈ row.drop n, isLineEnd c = false := fun c hc => hrow c (List.mem_of_mem_drop hc)
    by_cases hlast : pieces = []
    · subst hlast
      cases hinked : isInked row with
      | false => simp [returned, joinWith, splitLines, hinked, hf _ (isInked_drop hinked n)]
      | true =>
        have hline : (splitLines (joinWith ['\n'] [row.drop n])).filterMap f =
            [row.drop n].filterMap f :=
          filterMap_splitLines_joinWith (hf [] rfl) (List.forall_mem_singleton.2 hdrop)
        simpa [returned, hinked, List.filterMap_cons] using hline
    · obtain ⟨q, r, rfl⟩ := List.exists_cons_of_ne_nil hlast
      -- What is taken off a row that is long enough leaves its carriage return, which ends the line
      -- together with the line feed.
      rw [List.dropLast_cons_of_ne_nil (by simp)] at hlength
      obtain ⟨hn, hlength⟩ := List.forall_mem_cons.1 hlength
      have hne : (returned (q :: r)).map (fun row => if isInked row then row.drop n else []) ≠ [] :=
        List.map_eq_nil_iff.not.2 (returned_ne_nil (List.cons_ne_nil q r))
      rw [returned_cons (by simp), List.map_cons, if_pos (isInked_append_return row),
        List.drop_append_of_le_length hn, joinWith_cons hne, List.append_assoc, List.append_assoc]
      simp only [List.singleton_append]
      rw [splitLines_append_return_feed hdrop, List.filterMap_cons, List.filterMap_cons,
        ih hpieces hlength]

/-- What comes of the lines of a text in which carriage returns stand before the line feeds comes of its
rows. -/
theorem filterMap_flushLines_withReturns {α : Type} {f : List Char → Option α} (h : Plain s)
    (hf : ∀ row, isInked row = false → f row = none) :
    (flushLines (withReturns s)).filterMap f =
      (rows s).filterMap fun row => f (row.drop (margin (returned (rows s)))) := by
  have htabs : expandTabs (withReturns s) = withReturns s := by
    rw [expandTabs_withReturns, expandTabs_of_not_mem h.noTab]
  have hdrop : dropMargin (withReturns s) = joinWith ['\n'] ((rows (withReturns s)).map fun row =>
      if isInked row then row.drop (margin (rows (withReturns s))) else []) := rfl
  rw [flushLines, htabs, hdrop, rows_withReturns]
  refine filterMap_splitLines_returned hf (fun _ hrow => (h.oneLine_of_mem_rows hrow).noEnd) ?_
  exact fun row hrow => (margin_returned_le hrow).trans (indentation_le_length row)

end SpecGrammar.Text
