import SpecGrammar.Proofs.Notation.Accounting
import SpecGrammar.Proofs.Notation.Header
import SpecGrammar.Proofs.Notation.Soundness
import SpecGrammar.Proofs.Notation.Terminals

/-!
# The kinds of line are disjoint

* `Accepted s`: the text can be read as a line of a body, as an alternative or as a list of terminals;
* `Laid.colonsWithin`: in a text laid out as tokens, where none is a description in words, each colon has
  something else than white space right after it, for it stands within a literal;
* `Accepted.lead`: an accepted text begins, after white space, as a token does;
* `line_kinds_disjoint`: no header is accepted, nothing accepted begins as a comment or a directive, and
  no text is read that has a line indented or set out against its kind.
-/

namespace SpecGrammar.Notation

open Text (Blank)

/-- A text that can be read as a line of a body. -/
def Accepted (s : List Char) : Prop :=
  (∃ a, parseAlternative s = .ok a) ∨ ∃ texts, parseTerminals s = .ok texts

/-- A line that is written as its place does not allow: a header that is indented, or a line of a body
that is not. -/
def Line.Misplaced (line : Line) : Prop :=
  line.indented = true ∧ (∃ header, Header.parse? line.text = some header) ∨
    line.indented = false ∧ Accepted line.text

variable {s t text : List Char} {ts : List Token} {kind : Kind} {header : Header}

/-! ### Colons -/

/-- Each colon has something else than white space right after it. -/
def ColonsWithin (s : List Char) : Prop :=
  ∀ p q, s = p ++ ':' :: q → ∃ c r, q = c :: r ∧ Text.isBlank c = false

theorem ColonsWithin.of_not_mem (h : ':' ∉ s) : ColonsWithin s := by
  rintro p q rfl
  exact absurd (by simp) h

theorem ColonsWithin.append (hs : ColonsWithin s) (ht : ColonsWithin t) : ColonsWithin (s ++ t) := by
  intro p q hpq
  rcases List.append_eq_append_iff.1 hpq with ⟨u, rfl, rfl⟩ | ⟨u, rfl, hu⟩
  · exact ht u q rfl
  · cases u with
    | nil => exact ht [] q hu.symm
    | cons c u =>
      obtain ⟨rfl, rfl⟩ := List.cons.inj hu
      obtain ⟨d, r, rfl, hd⟩ := hs p u rfl
      exact ⟨d, r ++ t, rfl, hd⟩

/-- Between backticks stands no white space, and the colon is not the closing one. -/
theorem Literal.colonsWithin (h : Literal text) : ColonsWithin ('`' :: text ++ ['`']) := by
  have hblank : ∀ c ∈ '`' :: text ++ ['`'], Text.isBlank c = false := by
    intro c hc
    simp only [List.cons_append, List.mem_cons, List.mem_append, List.not_mem_nil, or_false] at hc
    rcases hc with rfl | hc | rfl
    · decide
    · rcases h with rfl | ⟨-, h⟩
      · obtain rfl := List.mem_singleton.1 hc
        decide
      · exact (h c hc).2
    · decide
  intro p q hpq
  cases q with
  | nil => simpa using (List.append_inj_right' hpq rfl)
  | cons c r => exact ⟨c, r, rfl, hblank c (by simp [hpq])⟩

theorem Lists.colon_not_mem {entries : List (List Char)} (h : Lists text entries) : ':' ∉ text := by
  obtain @⟨pieces, _, -, hp, hpad⟩ := h
  have hentry : ∀ entry, Parameter entry → ':' ∉ entry := by
    intro entry h hm
    cases h with
    | plain hc hr =>
      rcases List.mem_cons.1 hm with rfl | hm
      · exact absurd hc (by decide)
      · exact absurd (hr _ hm) (by decide)
    | sigil hg hc hr =>
      rcases List.mem_cons.1 hm with rfl | hm
      · exact absurd hg (by decide)
      rcases List.mem_cons.1 hm with rfl | hm
      · exact absurd hc (by decide)
      · exact absurd (hr _ hm) (by decide)
  have hpiece : ∀ piece ∈ pieces, ':' ∉ piece := by
    refine forall_piece hpad hp ?_
    rintro piece entry ⟨a, b, ha, hb, rfl⟩ he hm
    simp only [List.mem_append] at hm
    rcases hm with (hm | hm) | hm
    · exact absurd (ha _ hm) (by decide)
    · exact hentry entry he hm
    · exact absurd (hb _ hm) (by decide)
  have hjoined : ':' ∉ Text.joinWith [','] pieces := Text.not_mem_joinWith (by decide) hpiece
  simpa using hjoined

theorem CharacterSpelling.colon_not_mem {name : List Char} (h : CharacterSpelling text name) :
    ':' ∉ text := by
  have hname : ∀ name, CharacterName name → ':' ∉ name := by
    rintro _ ⟨hc, hr⟩ hm
    rcases List.mem_cons.1 hm with rfl | hm
    · exact absurd hc (by decide)
    · exact absurd (hr _ hm) (by decide)
  cases h with
  | plain h => simpa using hname _ h
  | reference h => simpa using hname _ h

/-- Of the tokens that are no description in words, only literals hold colons. -/
theorem Lexeme.colonsWithin (h : Lexeme kind text) (hne : kind ≠ .prose) : ColonsWithin text := by
  cases h with
  | params h => exact .of_not_mem h.colon_not_mem
  | namedCharacter h => exact .of_not_mem h.colon_not_mem
  | nonterminal h =>
    obtain ⟨hc, hr⟩ := h
    refine .of_not_mem fun hm => ?_
    rcases List.mem_cons.1 hm with rfl | hm
    · exact absurd hc (by decide)
    · exact absurd (hr _ hm) (by decide)
  | prose => exact absurd rfl hne
  | terminal h => exact h.colonsWithin
  | label h =>
    refine .of_not_mem fun hm => ?_
    rcases List.mem_cons.1 hm with hm | hm
    · exact absurd hm (by decide)
    · exact absurd (h.2 _ hm) (by decide)
  | operator h =>
    have key : ∀ spelled ∈ comparisons, ':' ∉ spelled.1 := by decide
    exact .of_not_mem (key _ h)
  | word h =>
    refine .of_not_mem ?_
    cases kind <;> simp only [Kind.word?, Option.some.injEq, reduceCtorEq] at h <;> subst h <;> decide

theorem Gap.blank {g : List Char} (hg : Gap g) : Blank g := fun c hc => isBlank_of_isGap (hg c hc)

theorem Gap.colonsWithin {g : List Char} (hg : Gap g) : ColonsWithin g :=
  .of_not_mem fun hm => absurd (hg _ hm) (by decide)

theorem Laid.colonsWithin (h : Laid ts s) (hw : Wordless ts) : ColonsWithin s := by
  induction h with
  | nil hg => exact hg.colonsWithin
  | @cons g s t ts hg _ _ ih =>
    obtain ⟨hl, hne⟩ := hw t (by simp)
    exact (hg.colonsWithin.append (hl.colonsWithin hne)).append
      (ih fun u hu => hw u (List.mem_cons_of_mem t hu))

/-- Behind the colons of a header comes white space, if anything. -/
theorem Header.not_colonsWithin (h : Header.parse? s = some header) : ¬ ColonsWithin s := by
  intro hs
  obtain ⟨p, q, rfl, hq⟩ := (written_of_parse? h).colon
  obtain ⟨c, r, rfl, hc⟩ := hs p q rfl
  rw [hq c rfl] at hc
  cases hc

/-! ### First characters -/

theorem isBlank_of_mem_leads {c : Char} (h : c ∈ kind.leads) : Text.isBlank c = false := by
  have key : kind.leads.all (fun d => !Text.isBlank d) = true := by cases kind <;> decide
  simpa using List.all_eq_true.1 key c h

/-- A text laid out as tokens begins, after white space, as the first of them. -/
theorem Laid.lead {t : Token} (h : Laid (t :: ts) s) (hl : Lexeme t.kind t.text) :
    ∃ c r, Text.trim s = c :: r ∧ c ∈ t.kind.leads := by
  cases h with
  | @cons g s _ _ hg =>
    obtain ⟨c, q, htext, hc⟩ := hl.lead
    have htrim : ∃ r, Text.trim (g ++ c :: (q ++ s)) = c :: r :=
      Text.exists_trim_eq_cons hg.blank (isBlank_of_mem_leads hc)
    obtain ⟨r, hr⟩ := htrim
    refine ⟨c, r, ?_, hc⟩
    rw [← hr, htext, List.append_assoc, List.cons_append]

/-- Without a token there is no alternative. -/
theorem parseAlternative_ne_ok_of_gap {g : List Char} (hg : Gap g) (a : Alternative) :
    parseAlternative g ≠ .ok a := by
  have hrun : alternativeReader.readAll {} g = .ok ({}, 0) := Reader.run_of_gap hg
  simp [parseAlternative, hrun, bind, Except.bind, Reading.excess?, Reading.finish?, Place.item?]

theorem Accepted.lead (h : Accepted s) :
    ∃ (kind : Kind) (c : Char) (r : List Char), Text.trim s = c :: r ∧ c ∈ kind.leads := by
  rcases h with ⟨a, ha⟩ | ⟨texts, htexts⟩
  · obtain ⟨-, ts, hlaid, hl, -⟩ := derives_of_parseAlternative ha
    cases ts with
    | nil =>
      cases hlaid with
      | nil hg => exact absurd ha (parseAlternative_ne_ok_of_gap hg a)
    | cons t ts => exact ⟨t.kind, hlaid.lead (hl t (by simp))⟩
  · obtain ⟨hne, hl, hlaid⟩ := parseTerminals_eq_ok_iff.1 htexts
    obtain ⟨text, texts, rfl⟩ := List.exists_cons_of_ne_nil hne
    exact ⟨_, hlaid.lead (lexeme_literal (hl text (by simp)))⟩

theorem eq_slash_of_isComment {c : Char} {r : List Char}
    (h : commentMark.isPrefixOf (c :: r) = true) : c = '/' := by
  simp only [commentMark, List.isPrefixOf_cons_cons, Bool.and_eq_true, beq_iff_eq] at h
  exact h.1.symm

theorem Accepted.not_comment (h : Accepted s) : ¬ commentMark.isPrefixOf (Text.trim s) = true := by
  obtain ⟨kind, c, r, htrim, hc⟩ := h.lead
  rw [htrim]
  intro hmark
  obtain rfl := eq_slash_of_isComment hmark
  exact absurd hc (by cases kind <;> decide)

theorem Accepted.not_directive (h : Accepted s) :
    ¬ directiveMark.isPrefixOf (Text.trim s) = true := by
  obtain ⟨kind, c, r, htrim, hc⟩ := h.lead
  rw [htrim]
  intro hmark
  obtain rfl : '@' = c := by simpa [directiveMark] using hmark
  exact absurd hc (by cases kind <;> decide)

/-! ### Headers -/

/-- A header begins with a letter or an underscore, so with no bracket. -/
theorem Header.lead (h : Header.parse? s = some header) :
    ∃ c r, Text.trim s = c :: r ∧ isNameStart c = true := by
  obtain ⟨c, r, rfl, hc⟩ := (written_of_parse? h).head
  obtain ⟨q, hq⟩ := Text.exists_trim_eq_cons (a := []) (r := r) (by simp [Blank])
    (isBlank_of_isNameStart hc)
  exact ⟨c, q, hq, hc⟩

/-- An alternative in words begins with the bracket that opens the words, or with one before. -/
theorem Derives.wordless_or_lead {a : Alternative} (h : Derives ts a) :
    Wordless ts ∨ ∃ t us, ts = t :: us ∧ (t.kind = .params ∨ t.kind = .prose) := by
  cases h with
  | items hg hi hl => exact .inl (.items hg hi hl)
  | prose hg =>
    cases hg with
    | absent => exact .inr ⟨_, _, rfl, .inr rfl⟩
    | present => exact .inr ⟨_, _, rfl, .inl rfl⟩

/-- No header can be read as a line of a body. -/
theorem Header.not_accepted (h : Header.parse? s = some header) : ¬ Accepted s := by
  rintro (⟨a, ha⟩ | ⟨texts, htexts⟩)
  · obtain ⟨-, ts, hlaid, hl, hd⟩ := derives_of_parseAlternative ha
    rcases hd.wordless_or_lead with hw | ⟨t, us, rfl, ht⟩
    · exact not_colonsWithin h (hlaid.colonsWithin hw)
    · obtain ⟨c, r, htrim, hc⟩ := hlaid.lead (hl t (by simp))
      obtain ⟨d, q, htrim', hd⟩ := Header.lead h
      obtain ⟨rfl, -⟩ := List.cons.inj (htrim.symm.trans htrim')
      have key : ∀ kind : Kind, kind = .params ∨ kind = .prose →
          kind.leads.all (fun c => !isNameStart c) = true := by
        rintro kind (rfl | rfl) <;> decide
      have hstart := List.all_eq_true.1 (key t.kind ht) c hc
      rw [hd] at hstart
      cases hstart
  · obtain ⟨-, hl, hlaid⟩ := parseTerminals_eq_ok_iff.1 htexts
    refine not_colonsWithin h (hlaid.colonsWithin ?_)
    intro t ht
    obtain ⟨text, htext, rfl⟩ := List.mem_map.1 ht
    exact ⟨lexeme_literal (hl text htext), nofun⟩

/-! ### Texts -/

variable {lines : List Line} {line : Line} {header : Header} {body : List (List Char)}

/-- The lines of a body that is read are accepted. -/
theorem HasBody.accepted {b : Option Body} (h : HasBody header body b) : ∀ s ∈ body, Accepted s := by
  have hread : ∀ {α : Type} {R : List Char → α → Prop} {as : List α}, List.Forall₂ R body as →
      (∀ s a, R s a → Accepted s) → ∀ s ∈ body, Accepted s := by
    intro α R as hb hR s hs
    obtain ⟨a, ha⟩ := exists_forall₂.1 ⟨as, hb⟩ s hs
    exact hR s a ha
  cases h with
  | absent => simp
  | alternatives _ _ hb => exact hread hb fun _ a ha => .inl ⟨a, ha⟩
  | oneOf _ hb => exact hread hb fun _ texts htexts => .inr ⟨texts, htexts⟩
  | inlineOneOf => simp
  | inline => simp

/-- Each line is one at column zero, or one below such a line. -/
theorem mem_lines (hstart : lines.takeWhile (·.indented) = []) (h : line ∈ lines) :
    ∃ i ∈ heads lines, line = lines.get i ∨ line ∈ linesBelow lines i := by
  rw [lines_eq_flatMap lines, hstart, List.nil_append] at h
  obtain ⟨i, hi, hline⟩ := List.mem_flatMap.1 h
  exact ⟨i, hi, List.mem_cons.1 hline⟩

theorem trim_of_mem_significantLines (h : line ∈ significantLines text) :
    Text.trim line.text = line.text := by
  obtain ⟨source, -, hline⟩ := List.mem_filterMap.1 h
  unfold Line.ofText? at hline
  dsimp only at hline
  split at hline
  · cases hline
  · obtain rfl := Option.some.inj hline
    exact Text.trim_trim source

/-- In a text that is read no line is misplaced. -/
theorem not_misplaced_of_parseElements {es : List Element} (h : parseElements text = .ok es) :
    ∀ line ∈ significantLines text, ¬ line.Misplaced := by
  obtain ⟨hstart, hreads⟩ := parseElements_eq_ok_iff.1 h
  intro line hline
  have htrim := trim_of_mem_significantLines hline
  obtain ⟨i, hi, hplace⟩ := mem_lines hstart hline
  obtain ⟨e, he⟩ := exists_forall₂.1 ⟨es, hreads⟩ i hi
  rcases hplace with rfl | hbelow
  · have hflush := (mem_positions _).1 hi
    rintro (⟨hindented, -⟩ | ⟨-, haccepted⟩)
    · rw [hflush] at hindented
      cases hindented
    · cases he with
      | directive hmark =>
        rw [← htrim] at hmark
        exact haccepted.not_directive hmark
      | production hheader => exact Header.not_accepted hheader haccepted
  · have hindented : line.indented = true := List.mem_takeWhile_imp hbelow
    rintro (⟨-, header, hheader⟩ | ⟨hflush, -⟩)
    · refine Header.not_accepted hheader ?_
      cases he with
      | directive _ hbody => exact absurd (List.map_eq_nil_iff.1 hbody) (List.ne_nil_of_mem hbelow)
      | production _ hb => exact hb.accepted line.text (List.mem_map_of_mem hbelow)
    · rw [hflush] at hindented
      cases hindented

/-- The kinds of line are disjoint: no header can be read as a line of a body, and nothing that can be
read as a line of a body begins as a comment or a directive does. So a text is refused if a header stands
on an indented line of it, or a line of a body at column zero. -/
theorem line_kinds_disjoint :
    (∀ s header, Header.parse? s = some header →
      (∀ a, parseAlternative s ≠ .ok a) ∧ ∀ texts, parseTerminals s ≠ .ok texts) ∧
    (∀ s, Accepted s →
      ¬ commentMark.isPrefixOf (Text.trim s) = true ∧ ¬ directiveMark.isPrefixOf (Text.trim s) = true) ∧
    ∀ text, (∃ line ∈ significantLines text, line.Misplaced) →
      ∃ defect, Grammar.parse text = .error defect := by
  refine ⟨fun s header h => ?_, fun s h => ⟨h.not_comment, h.not_directive⟩, ?_⟩
  · have hnot := Header.not_accepted h
    exact ⟨fun a ha => hnot (.inl ⟨a, ha⟩), fun texts htexts => hnot (.inr ⟨texts, htexts⟩)⟩
  · rintro text ⟨line, hline, hmisplaced⟩
    cases hparse : Grammar.parse text with
    | error defect => exact ⟨defect, rfl⟩
    | ok g =>
      obtain ⟨-, hes⟩ := Grammar.parse_eq_ok_iff.1 hparse
      exact absurd hmisplaced (not_misplaced_of_parseElements hes line hline)

end SpecGrammar.Notation
