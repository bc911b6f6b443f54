import SpecGrammar.Proofs.Notation.HeaderPattern

/-!
# The one way to cut a header

* `Header.Cut`: a way to cut a line into the parts of a header, which says nothing of how headers are
  read or matched;
* `Header.Cut.eq_of_line_eq`: no line is cut in two ways;
* `Header.Heading`: a header as it is composed from a name, parameters, colons and a rest;
* `Header.pattern_cuts`: in a line without a line feed the pattern finds the parts of the one way to cut
  the line, and nothing if there is no way; a composed header gives back what it was composed from.
-/

namespace SpecGrammar.Notation.Header

open Text (Blank)

/-- A letter or an underscore, and word characters behind it. -/
def IsName (s : List Char) : Prop :=
  ∃ c r, s = c :: r ∧ isNameStart c = true ∧ ∀ d ∈ r, Text.isWord d = true

/-- A text between brackets. -/
def enclosed (inner : List Char) : List Char := '[' :: inner ++ [']']

/-- A way to cut a line into a name, what stands between brackets directly behind it, white space, colons
and all that comes after the colons. -/
structure Cut where
  name : List Char
  inner : Option (List Char)
  gap : List Char
  colons : Nat
  tail : List Char
  isName : IsName name
  inner_closed : ∀ text ∈ inner, ']' ∉ text
  blank_gap : Blank gap
  colons_pos : 1 ≤ colons
  colons_le : colons ≤ 3
  /-- Nothing but white space, or white space and a text that is not blank. -/
  tail_spaced : Blank tail ∨ ∃ space text, tail = space ++ text ∧ space ≠ [] ∧ Blank space ∧ ¬ Blank text

namespace Cut

def line (cut : Cut) : List Char :=
  cut.name ++ ((cut.inner.map enclosed).getD [] ++
    (cut.gap ++ (List.replicate cut.colons ':' ++ cut.tail)))

/-- What comes after the colons, from its first to its last character that is not white space. -/
def rest (cut : Cut) : Option (List Char) :=
  if cut.tail.all Text.isBlank then none else some (Text.trim cut.tail)

/-- The header with the parts of a cut. -/
def header (cut : Cut) : Header where
  name := cut.name
  bracketed := cut.inner.map enclosed
  colons := cut.colons
  rest := cut.rest

end Cut

/-- A name, parameters if any are given in brackets, colons, and the rest of the line. -/
structure Heading where
  name : List Char
  parameters : Option (List (List Char))
  colons : Nat
  rest : List Char
  isName : IsName name
  isParameter : ∀ entries ∈ parameters, ∀ entry ∈ entries,
    entry ≠ [] ∧ Text.trim entry = entry ∧ ',' ∉ entry ∧ ']' ∉ entry
  colons_pos : 1 ≤ colons
  colons_le : colons ≤ 3
  rest_ne_nil : rest ≠ []
  trim_rest : Text.trim rest = rest
  rest_oneLine : '\n' ∉ rest

/-- The parameters with commas between them. -/
def Heading.inner (heading : Heading) : Option (List Char) :=
  heading.parameters.map (Text.joinWith [',', ' '])

/-- A header as it is usually composed. -/
def Heading.write (heading : Heading) : List Char :=
  heading.name ++ ((heading.inner.map enclosed).getD [] ++
    (' ' :: (List.replicate heading.colons ':' ++ ' ' :: heading.rest)))

variable {cut cut' : Cut} {header : Header} {line inner : List Char} {entries : List (List Char)}

/-! ### Cuts as headers are written -/

theorem bracketed_of_closed {inner : Option (List Char)} (h : ∀ text ∈ inner, ']' ∉ text) :
    Bracketed ((inner.map enclosed).getD []) (inner.map enclosed) := by
  cases inner with
  | none => exact .absent
  | some text => exact .present (h text rfl)

theorem Cut.remainder (h : '\n' ∉ cut.tail) : Remainder cut.tail cut.rest := by
  refine rest?_eq_some_iff.1 ?_
  unfold Cut.rest rest?
  rcases cut.tail_spaced with hblank | ⟨space, text, htail, hne, hspace, htext⟩
  · rw [Text.trim_of_blank hblank, if_pos (List.all_eq_true.2 hblank)]
  · have hnot : ¬ Blank cut.tail := fun hblank =>
      htext fun c hc => hblank c (by simp [htail, hc])
    have hhead : cut.tail.head?.any Text.isBlank = true := by
      obtain ⟨d, space, rfl⟩ := List.exists_cons_of_ne_nil hne
      simp [htail, hspace d]
    have hline : '\n' ∉ Text.trim cut.tail := fun hmem =>
      h ((Text.trim_isInfix cut.tail).subset hmem)
    rw [if_neg fun hall => hnot (List.all_eq_true.1 hall)]
    split
    case h_1 hnil => exact absurd (Text.blank_of_trim hnil) hnot
    case h_2 => simp [hhead, hline]

theorem Cut.written (h : '\n' ∉ cut.tail) : cut.header.Written cut.line := by
  obtain ⟨c, r, hname, hc, hr⟩ := cut.isName
  have hwritten := Header.Written.mk hc hr (bracketed_of_closed cut.inner_closed) cut.blank_gap
    ⟨cut.colons_pos, cut.colons_le⟩ (Cut.remainder h)
  rwa [← hname] at hwritten

theorem Written.exists_cut (h : header.Written line) : ∃ cut : Cut, cut.line = line := by
  cases h with
  | @mk c r brackets gap tail bracketed rest colons hc hr hb hgap hcolons ht =>
    have hspaced : Blank tail ∨
        ∃ space text, tail = space ++ text ∧ space ≠ [] ∧ Blank space ∧ ¬ Blank text := by
      cases ht with
      | absent h => exact .inl h
      | @present a s b ha hne hb hs htrim _ =>
        refine .inr ⟨a, s ++ b, List.append_assoc a s b, hne, ha, fun hblank => hs ?_⟩
        rw [← htrim, Text.trim_of_blank fun c hc => hblank c (List.mem_append_left b hc)]
    obtain ⟨inner, hinner, rfl⟩ : ∃ inner : Option (List Char),
        (∀ text ∈ inner, ']' ∉ text) ∧ (inner.map enclosed).getD [] = brackets := by
      cases hb with
      | absent => exact ⟨none, by simp, rfl⟩
      | @present inner h => exact ⟨some inner, by simpa using h, rfl⟩
    exact ⟨⟨c :: r, inner, gap, colons, tail, ⟨c, r, rfl, hc, hr⟩, hinner, hgap, hcolons.1, hcolons.2,
      hspaced⟩, rfl⟩

theorem Cut.feed_not_mem_tail (h : '\n' ∉ cut.line) : '\n' ∉ cut.tail := fun hmem =>
  h (by simp [Cut.line, hmem])

theorem Cut.parse?_line (h : '\n' ∉ cut.line) : parse? cut.line = some cut.header :=
  parse?_of_written (Cut.written (Cut.feed_not_mem_tail h))

/-- The parts before the gap are those of the header that is read, and the gap ends where the colons
begin. -/
theorem Cut.eq_of_line_eq (h : '\n' ∉ cut.line) (hline : cut'.line = cut.line) : cut' = cut := by
  have hheader : cut'.header = cut.header := by
    have hcut := Cut.parse?_line h
    rw [← hline, Cut.parse?_line (hline ▸ h)] at hcut
    exact Option.some.inj hcut
  obtain ⟨name, inner, gap, colons, tail, _, _, hgap, hpos, _, _⟩ := cut
  obtain ⟨name', inner', gap', colons', tail', _, _, hgap', hpos', _, _⟩ := cut'
  have henclosed : Function.Injective enclosed := fun s t hst => by simpa [enclosed] using hst
  simp only [Cut.header, Header.mk.injEq] at hheader
  obtain ⟨rfl, hinner, rfl, -⟩ := hheader
  obtain rfl := Option.map_injective henclosed hinner
  have hgaps : gap' ++ (List.replicate colons' ':' ++ tail') =
      gap ++ (List.replicate colons' ':' ++ tail) := by
    simpa [Cut.line] using hline
  have htails := congrArg Text.trimStart hgaps
  rw [trimStart_gap hgap' hpos', trimStart_gap hgap hpos'] at htails
  obtain rfl := List.append_cancel_left htails
  obtain rfl := List.append_cancel_right hgaps
  rfl

/-! ### Composed headers -/

/-- Cutting at the commas leaves a space before each parameter but the first. -/
theorem map_trim_splitWhen_joinWith (hne : entries ≠ [])
    (h : ∀ entry ∈ entries, Text.trim entry = entry ∧ ',' ∉ entry) :
    (Text.splitWhen (· == ',') (Text.joinWith [',', ' '] entries)).map Text.trim = entries := by
  induction entries with
  | nil => exact absurd rfl hne
  | cons entry entries ih =>
    obtain ⟨⟨htrim, hcomma⟩, h⟩ := List.forall_mem_cons.1 h
    have hentry : ∀ c ∈ entry, (c == ',') = false := by
      intro c hc
      refine beq_eq_false_iff_ne.2 ?_
      rintro rfl
      exact hcomma hc
    by_cases hlast : entries = []
    · subst hlast
      rw [Text.joinWith, Text.splitWhen_of_not hentry, List.map_singleton, htrim]
    · obtain ⟨piece, pieces, hpieces, hspaced⟩ := Text.splitWhen_cons_of_not (p := (· == ','))
        (c := ' ') (s := Text.joinWith [',', ' '] entries) (by decide)
      have hrest := ih hlast h
      rw [hpieces, List.map_cons] at hrest
      have hspace : Text.trim (' ' :: piece) = Text.trim piece :=
        Text.trim_append (a := [' ']) (List.forall_mem_singleton.2 (by decide)) piece
      rw [Text.joinWith_cons hlast, List.append_assoc, List.cons_append, List.singleton_append,
        Text.splitWhen_append_cons hentry (by decide), hspaced, List.map_cons, List.map_cons, htrim,
        hspace, hrest]

theorem parameters_enclosed
    (h : ∀ entry ∈ entries, entry ≠ [] ∧ Text.trim entry = entry ∧ ',' ∉ entry ∧ ']' ∉ entry) :
    parameters (enclosed (Text.joinWith [',', ' '] entries)) = entries := by
  have htrim : ∀ inner, Text.trim (enclosed inner) = enclosed inner := fun inner =>
    Text.trim_of_ends (c := '[') (d := ']') (by decide) (by decide) rfl ⟨'[' :: inner, rfl⟩
  have hinner : ∀ inner, ((enclosed inner).drop 1).dropLast = inner := fun inner => by
    simp [enclosed]
  unfold parameters
  rw [htrim, hinner]
  by_cases hne : entries = []
  · subst hne
    decide
  · rw [map_trim_splitWhen_joinWith hne fun entry hentry => ⟨(h entry hentry).2.1, (h entry hentry).2.2.1⟩,
      List.filter_eq_self.2 fun entry hentry => by simpa using (h entry hentry).1]

theorem Heading.inner_closed (heading : Heading) : ∀ text ∈ heading.inner, ']' ∉ text := by
  intro text htext
  obtain ⟨entries, hentries, rfl⟩ := Option.map_eq_some_iff.1 htext
  exact Text.not_mem_joinWith (by decide) fun entry hentry =>
    (heading.isParameter entries hentries entry hentry).2.2.2

theorem Heading.parse?_write (heading : Heading) :
    parse? heading.write = some ⟨heading.name, heading.inner.map enclosed, heading.colons,
      some heading.rest⟩ := by
  obtain ⟨c, r, hname, hc, hr⟩ := heading.isName
  have hspace : Blank [' '] := List.forall_mem_singleton.2 (by decide)
  have hrest : Remainder (' ' :: heading.rest) (some heading.rest) := by
    have hpresent := Remainder.present (b := []) hspace (by simp) (by simp [Blank])
      heading.rest_ne_nil heading.trim_rest heading.rest_oneLine
    rwa [List.append_nil] at hpresent
  have hwritten := Header.Written.mk hc hr (bracketed_of_closed heading.inner_closed) hspace
    ⟨heading.colons_pos, heading.colons_le⟩ hrest
  rw [← hname] at hwritten
  exact parse?_of_written hwritten

theorem Heading.map_parameters (heading : Heading) :
    (heading.inner.map enclosed).map Notation.parameters = heading.parameters := by
  unfold Heading.inner
  cases h : heading.parameters with
  | none => rfl
  | some entries => simp [parameters_enclosed (heading.isParameter entries h)]

/-- What the pattern finds is what is read. In a line without a line feed it finds a header just if the
line can be cut into the parts of one; then there is no other way to cut it, the groups are its parts, and
no colon follows the colons. A composed header gives back its name, parameters, colons and rest. -/
theorem pattern_cuts :
    (∀ line : List Char, match? line = parse? line) ∧
    (∀ line : List Char, '\n' ∉ line →
      ((match? line).isSome = true ↔ ∃ cut : Cut, cut.line = line)) ∧
    (∀ cut : Cut, '\n' ∉ cut.line →
      match? cut.line = some cut.header ∧ cut.tail.head? ≠ some ':' ∧
        ∀ cut' : Cut, cut'.line = cut.line → cut' = cut) ∧
    ∀ heading : Heading, ∃ header : Header, match? heading.write = some header ∧
      header.name = heading.name ∧ header.bracketed.map parameters = heading.parameters ∧
      header.colons = heading.colons ∧ header.rest = some heading.rest := by
  have hcut : ∀ cut : Cut, '\n' ∉ cut.line → match? cut.line = some cut.header := fun cut h => by
    rw [match?_eq_parse?, Cut.parse?_line h]
  refine ⟨match?_eq_parse?, fun line hline => ⟨fun h => ?_, ?_⟩, fun cut hline => ?_, fun heading => ?_⟩
  · obtain ⟨header, hheader⟩ := Option.isSome_iff_exists.1 h
    rw [match?_eq_parse?] at hheader
    exact (written_of_parse? hheader).exists_cut
  · rintro ⟨cut, rfl⟩
    rw [hcut cut hline, Option.isSome_some]
  · refine ⟨hcut cut hline, fun hcolon => ?_, fun cut' h => Cut.eq_of_line_eq hline h⟩
    have hhead := (Cut.remainder (Cut.feed_not_mem_tail hline)).head_ne_colon ':' hcolon
    cases hhead
  · refine ⟨⟨heading.name, heading.inner.map enclosed, heading.colons, some heading.rest⟩, ?_, rfl,
      heading.map_parameters, rfl, rfl⟩
    rw [match?_eq_parse?, heading.parse?_write]

/-- A header with white space wherever it may stand, and a colon in its rest. -/
def spaciousCut : Cut where
  name := "Block".toList
  inner := some "Yield, ?Await".toList
  gap := "  ".toList
  colons := 3
  tail := "\t`a` : b ".toList
  isName := ⟨'B', "lock".toList, rfl, by decide, List.all_eq_true.1 (by decide)⟩
  inner_closed := by simp
  blank_gap := by simp [Blank]; decide
  colons_pos := by decide
  colons_le := by decide
  tail_spaced := .inr ⟨['\t'], "`a` : b ".toList, rfl, by simp, List.forall_mem_singleton.2 (by decide),
    fun h => absurd (h '`' (by simp)) (by decide)⟩

theorem pattern_cuts_spacious :
    '\n' ∉ spaciousCut.line ∧ match? "Block[Yield, ?Await]  :::\t`a` : b ".toList =
      some ⟨"Block".toList, some "[Yield, ?Await]".toList, 3, some "`a` : b".toList⟩ := by
  have hline : '\n' ∉ spaciousCut.line := by decide
  have hwritten : spaciousCut.line = "Block[Yield, ?Await]  :::\t`a` : b ".toList := by decide
  have hheader : spaciousCut.header =
      ⟨"Block".toList, some "[Yield, ?Await]".toList, 3, some "`a` : b".toList⟩ := by decide
  refine ⟨hline, ?_⟩
  rw [← hwritten, ← hheader]
  exact (pattern_cuts.2.2.1 spaciousCut hline).1

end SpecGrammar.Notation.Header
