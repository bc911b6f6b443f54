import SpecGrammar.Proofs.Notation.Form
import SpecGrammar.Proofs.Notation.Indentation

/-!
# Bodies in the header line and below it

* `Header.production`: the production of a header with a body;
* `outcome_of_block`: what a text is read as that is a header with indented rows below it;
* `parseTerminals_joinWith`: lists of terminals are read on one line as they are on several;
* `outcome_placed`: a production is the same with its body in the header line and below it.
-/

namespace SpecGrammar.Notation

open Text (Blank)

/-- The production of a header with a body. -/
def Header.production (header : Header) (body : Body) : Element :=
  .production {
    name := header.name
    parameters := (header.bracketed.map parameters).getD []
    colons := header.colons
    body := some body }

/-- A row that is a line set in by white space. -/
def SetIn (line row : List Char) : Prop :=
  ∃ gap, Blank gap ∧ gap ≠ [] ∧ Text.OneLine gap ∧ row = gap ++ line

variable {head line row : List Char} {lines rows : List (List Char)} {header : Header} {body : Body}
  {rest : List Char} {texts : List (List (List Char))}

/-! ### Headers -/

/-- A header without a rest takes any trimmed one after a space. -/
theorem Header.Written.inline (h : header.Written head) (hrest : header.rest = none) (hne : rest ≠ [])
    (htrim : Text.trim rest = rest) (hfeed : '\n' ∉ rest) :
    Header.Written { header with rest := some rest } (head ++ ' ' :: rest) := by
  cases h with
  | @mk c r brackets gap tail bracketed _ colons hc hr hb hgap hcolons ht =>
    obtain rfl := hrest
    cases ht with
    | absent hblank =>
      have htail : Blank (tail ++ [' ']) := fun c hc =>
        (List.mem_append.1 hc).elim (hblank c) fun hc => by
          obtain rfl := List.mem_singleton.1 hc
          decide
      have hpresent : Remainder (tail ++ [' '] ++ rest ++ []) (some rest) :=
        .present htail (by simp) (by simp [Blank]) hne htrim hfeed
      have hwritten := Header.Written.mk hc hr hb hgap hcolons hpresent
      simpa using hwritten

theorem Header.Written.ne_nil (h : header.Written head) : head ≠ [] := by
  obtain ⟨c, r, rfl, -⟩ := h.head
  simp

/-! ### Blocks -/

theorem setIn_replicate {n : Nat} (h : 0 < n) (line : List Char) :
    SetIn line (List.replicate n ' ' ++ line) := by
  refine ⟨List.replicate n ' ', blank_replicate n, by simpa using Nat.ne_of_gt h, ⟨by simp, ?_⟩, rfl⟩
  intro c hc
  obtain rfl := List.eq_of_mem_replicate hc
  decide

theorem SetIn.trim (h : SetIn line row) (hline : Text.trim line = line) : Text.trim row = line := by
  obtain ⟨gap, hgap, -, -, rfl⟩ := h
  rw [Text.trim_append hgap, hline]

theorem SetIn.indented (h : SetIn line row) : row.head?.any Text.isBlank = true := by
  obtain ⟨gap, hgap, hne, -, rfl⟩ := h
  obtain ⟨c, gap, rfl⟩ := List.exists_cons_of_ne_nil hne
  simpa using hgap c (by simp)

theorem SetIn.oneLine (h : SetIn line row) (hline : Text.OneLine line) : Text.OneLine row := by
  obtain ⟨gap, -, -, hgap, rfl⟩ := h
  exact hgap.append hline

theorem SetIn.map_trim (h : List.Forall₂ SetIn lines rows)
    (hlines : ∀ line ∈ lines, Text.trim line = line) : rows.map Text.trim = lines := by
  induction h with
  | nil => rfl
  | cons hrow _ ih =>
    obtain ⟨hline, hlines⟩ := List.forall_mem_cons.1 hlines
    rw [List.map_cons, hrow.trim hline, ih hlines]

/-- A header with indented rows below it is read as the production that they make. -/
theorem outcome_of_block (h : header.Written head) (htrim : Text.trim head = head)
    (hhead : Text.OneLine head) (hrows : List.Forall₂ SetIn lines rows)
    (hlines : ∀ line ∈ lines, Text.OneLine line ∧ Text.trim line = line ∧ Accepted line)
    (hbody : HasBody header lines (some body)) :
    outcome (Text.joinWith ['\n'] (head :: rows)) = .ok [header.production body] := by
  have hrow : ∀ row ∈ rows, ∃ line ∈ lines, SetIn line row := exists_mem_of_forall₂ hrows.flip
  have hone : ∀ row ∈ head :: rows, Text.OneLine row := by
    refine List.forall_mem_cons.2 ⟨hhead, fun row hmem => ?_⟩
    obtain ⟨line, hline, hset⟩ := hrow row hmem
    exact hset.oneLine (hlines line hline).1
  have hindented : ∀ row ∈ rows, row.head?.any Text.isBlank = true ∧ Accepted (Text.trim row) := by
    intro row hmem
    obtain ⟨line, hline, hset⟩ := hrow row hmem
    obtain ⟨-, htrim, haccepted⟩ := hlines line hline
    exact ⟨hset.indented, by rwa [hset.trim htrim]⟩
  have hblocks := blocks_of_rows h htrim (Text.plain_joinWith hone)
    (fun row hmem => (hone row hmem).not_mem_feed) hindented
  rw [SetIn.map_trim hrows fun line hline => (hlines line hline).2.1] at hblocks
  rw [outcome_eq_parseElements, parseElements_eq_ok_iff_blocks, hblocks]
  refine ⟨rfl, mapM_eq_ok_iff.2 (.cons (Block.read_iff.2 ?_) .nil)⟩
  exact .production (Header.parse?_of_written h) hbody

/-! ### Lines -/

/-- No alternative begins as a list does. -/
theorem head?_ne_of_parseAlternative {a : Alternative} (h : parseAlternative line = .ok a) :
    line.head? ≠ oneOfMark.head? := by
  have hmark : oneOfMark.head? = some 'o' := by decide
  rw [hmark]
  intro ho
  obtain ⟨r, rfl⟩ := List.head?_eq_some_iff.1 ho
  have hfirst : first? (Reading.kinds {}) ('o' :: r) = none := by
    by_contra hsome
    obtain ⟨t, ht⟩ := Option.ne_none_iff_exists'.1 hsome
    obtain ⟨hkind, hmatch⟩ := first?_sound ht
    have hlead := mem_leads_of_match? hmatch
    have hstart : ∀ kind ∈ Reading.kinds {}, 'o' ∉ kind.leads := by decide
    exact hstart t.kind hkind hlead
  have hgap : isGap 'o' = false := by decide
  -- Nothing that may come first is found, so reading fails whatever else could be read there.
  have hrun : ∃ e, alternativeReader.readAll {} ('o' :: r) = .error e := by
    rw [Reader.readAll, Reader.run, hgap]
    simp only [alternativeReader, hfirst, Bool.false_eq_true, if_false]
    cases first? Kind.all ('o' :: r) with
    | none => exact ⟨_, rfl⟩
    | some t => exact ⟨_, rfl⟩
  obtain ⟨e, he⟩ := hrun
  rw [parseAlternative, he] at h
  cases h

/-- Lists of terminals are read on one line as they are on several. -/
theorem parseTerminals_joinWith (hne : lines ≠ [])
    (h : List.Forall₂ (fun line ts => parseTerminals line = .ok ts) lines texts) :
    parseTerminals (Text.joinWith [' '] lines) = .ok texts.flatten := by
  induction h with
  | nil => exact absurd rfl hne
  | @cons line ts lines texts hline hlines ih =>
    by_cases hlast : lines = []
    · subst hlast
      obtain rfl := List.forall₂_nil_left_iff.1 hlines
      simpa [Text.joinWith] using hline
    · obtain ⟨hts, hliteral, hlaid⟩ := parseTerminals_eq_ok_iff.1 hline
      obtain ⟨-, hliterals, hlaids⟩ := parseTerminals_eq_ok_iff.1 (ih hlast)
      have hwordless : ∀ t ∈ ts.map Token.literal, t.kind ≠ .prose := by
        intro t ht
        obtain ⟨text, -, rfl⟩ := List.mem_map.1 ht
        exact (by decide : Kind.terminal ≠ .prose)
      rw [parseTerminals_eq_ok_iff, List.flatten_cons, List.map_append, Text.joinWith_cons hlast,
        List.append_assoc]
      refine ⟨by simp [hts], fun text htext => ?_, hlaid.append hlaids hwordless⟩
      exact (List.mem_append.1 htext).elim (hliteral text) (hliterals text)

theorem ne_nil_of_accepted (h : Accepted line) : line ≠ [] := by
  rintro rfl
  obtain ⟨kind, c, r, htrim, -⟩ := h.lead
  exact absurd htrim (by simp [Text.trim, Text.trimStart, Text.trimEnd])

theorem oneLine_oneOfMark : Text.OneLine oneOfMark := by decide

theorem oneLine_space : Text.OneLine [' '] := by decide

/-! ### The two places -/

/-- A header without a body of its own. -/
structure Bare (header : Header) (head : List Char) : Prop where
  written : header.Written head
  rest : header.rest = none
  trim : Text.trim head = head
  oneLine : Text.OneLine head

namespace Bare

/-- With a rest that is a trimmed line the header still is one. -/
theorem trim_oneLine (h : Bare header head) (hne : rest ≠ []) (htrim : Text.trim rest = rest)
    (hline : Text.OneLine rest) :
    Text.trim (head ++ ' ' :: rest) = head ++ ' ' :: rest ∧ Text.OneLine (head ++ ' ' :: rest) := by
  have hsplit : head ++ ' ' :: rest = head ++ [' '] ++ rest := by simp
  rw [hsplit]
  exact ⟨Text.trim_between h.trim htrim h.written.ne_nil hne [' '],
    (h.oneLine.append oneLine_space).append hline⟩

/-- A body that the rest of the header makes with the lines below it. -/
theorem outcome_rest (h : Bare header head) (hne : rest ≠ []) (htrim : Text.trim rest = rest)
    (hline : Text.OneLine rest) (hrows : List.Forall₂ SetIn lines rows)
    (hlines : ∀ line ∈ lines, Text.OneLine line ∧ Text.trim line = line ∧ Accepted line)
    (hbody : HasBody { header with rest := some rest } lines (some body)) :
    outcome (Text.joinWith ['\n'] ((head ++ ' ' :: rest) :: rows)) = .ok [header.production body] := by
  obtain ⟨htrim', hline'⟩ := h.trim_oneLine hne htrim hline
  have hwritten := h.written.inline h.rest hne htrim hline.not_mem_feed
  exact (outcome_of_block hwritten htrim' hline' hrows hlines hbody).trans rfl

/-- A body that the rest of the header makes alone. -/
theorem outcome_inline (h : Bare header head) (hne : rest ≠ []) (htrim : Text.trim rest = rest)
    (hline : Text.OneLine rest) (hbody : HasBody { header with rest := some rest } [] (some body)) :
    outcome (head ++ ' ' :: rest) = .ok [header.production body] := by
  have hnone : List.Forall₂ SetIn [] [] := .nil
  have hsingle := h.outcome_rest hne htrim hline hnone (by simp) hbody
  rwa [Text.joinWith] at hsingle

/-- A body that the lines below the header make alone. -/
theorem outcome_below (h : Bare header head) (hrows : List.Forall₂ SetIn lines rows)
    (hlines : ∀ line ∈ lines, Text.OneLine line ∧ Text.trim line = line ∧ Accepted line)
    (hform : HasForm .alternative lines body) :
    outcome (Text.joinWith ['\n'] (head :: rows)) = .ok [header.production body] := by
  have hbody : HasBody header lines (some body) := by
    obtain ⟨name, bracketed, colons, rest⟩ := header
    obtain rfl := h.rest
    exact hasBody_below hform
  exact outcome_of_block h.written h.trim h.oneLine hrows hlines hbody

/-- An alternative, in the header line or below it. -/
theorem outcome_alternative (h : Bare header head) {a : Alternative} (hline : Text.OneLine line)
    (htrim : Text.trim line = line) (ha : parseAlternative line = .ok a) :
    outcome (head ++ ' ' :: line) = .ok [header.production (.alternatives [a])] ∧
      ∀ row, SetIn line row →
        outcome (head ++ '\n' :: row) = .ok [header.production (.alternatives [a])] := by
  have haccepted : Accepted line := .inl ⟨a, ha⟩
  have hform : HasForm .alternative [line] (.alternatives [a]) :=
    .alternatives (by simp) (.cons ha .nil)
  constructor
  · exact h.outcome_inline (ne_nil_of_accepted haccepted) htrim hline
      (hasBody_inline hform (head?_ne_of_parseAlternative ha))
  · intro row hrow
    have hbelow := h.outcome_below (.cons hrow .nil)
      (List.forall_mem_singleton.2 ⟨hline, htrim, haccepted⟩) hform
    simpa [Text.joinWith] using hbelow

/-- A list of terminals, in the header line or below it. -/
theorem outcome_list (h : Bare header head) (hne : lines ≠ [])
    (hlines : ∀ line ∈ lines, Text.OneLine line ∧ Text.trim line = line)
    (htexts : List.Forall₂ (fun line ts => parseTerminals line = .ok ts) lines texts) :
    outcome (head ++ ' ' :: (oneOfMark ++ ' ' :: Text.joinWith [' '] lines)) =
        .ok [header.production (.oneOf texts.flatten)] ∧
      ∀ rows, List.Forall₂ SetIn lines rows →
        outcome (Text.joinWith ['\n'] ((head ++ ' ' :: oneOfMark) :: rows)) =
          .ok [header.production (.oneOf texts.flatten)] := by
  have haccepted : ∀ line ∈ lines, Accepted line := by
    intro line hline
    obtain ⟨ts, -, hts⟩ := exists_mem_of_forall₂ htexts line hline
    exact .inr ⟨ts, hts⟩
  constructor
  · have hjoined := parseTerminals_joinWith hne htexts
    obtain ⟨htexts', -, hlaid⟩ := parseTerminals_eq_ok_iff.1 hjoined
    have hform : HasForm .oneOf [Text.joinWith [' '] lines] (.oneOf texts.flatten) := by
      simpa using HasForm.oneOf (.cons hjoined .nil)
    have htrimmed : ∀ line ∈ lines, Text.trim line = line ∧ line ≠ [] := fun line hline =>
      ⟨(hlines line hline).2, ne_nil_of_accepted (haccepted line hline)⟩
    obtain ⟨htrim, hjoined'⟩ := Text.trim_joinWith hne htrimmed [' ']
    have hline := oneLine_oneOfMark.append (oneLine_space.append
      (Text.oneLine_joinWith oneLine_space fun line hline => (hlines line hline).1))
    have hrest := Text.trim_between (s := oneOfMark) (by decide) htrim (by decide) hjoined' [' ']
    rw [List.append_assoc] at hrest
    exact h.outcome_inline (by simp) hrest hline
      (hasBody_inline hform (head?_ne_of_literals htexts' hlaid))
  · intro rows hrows
    exact h.outcome_rest (by decide) (by decide) oneLine_oneOfMark hrows
      (fun line hline => ⟨(hlines line hline).1, (hlines line hline).2, haccepted line hline⟩)
      (hasBody_below (.oneOf htexts))

end Bare

/-- A production is the same with its body in the header line and below it: an alternative that stands
after the header or on an indented row, and terminals that stand in a list after the header or are spread
over indented rows. -/
theorem outcome_placed (hhead : Header.parse? head = some header) (hrest : header.rest = none)
    (htrim : Text.trim head = head) (hone : Text.OneLine head) :
    (∀ x a, Text.OneLine x → Text.trim x = x → parseAlternative x = .ok a →
      a.source = x ∧ outcome (head ++ ' ' :: x) = .ok [header.production (.alternatives [a])] ∧
        ∀ row, SetIn x row →
          outcome (head ++ '\n' :: row) = .ok [header.production (.alternatives [a])]) ∧
    ∀ xs texts, xs ≠ [] → (∀ x ∈ xs, Text.OneLine x ∧ Text.trim x = x) →
      List.Forall₂ (fun x ts => parseTerminals x = .ok ts) xs texts →
        outcome (head ++ ' ' :: (oneOfMark ++ ' ' :: Text.joinWith [' '] xs)) =
            .ok [header.production (.oneOf texts.flatten)] ∧
          ∀ rows, List.Forall₂ SetIn xs rows →
            outcome (Text.joinWith ['\n'] ((head ++ ' ' :: oneOfMark) :: rows)) =
              .ok [header.production (.oneOf texts.flatten)] := by
  have hbare : Bare header head := ⟨Header.written_of_parse? hhead, hrest, htrim, hone⟩
  refine ⟨fun x a hx hxtrim ha => ?_, fun xs texts hne hxs htexts => hbare.outcome_list hne hxs htexts⟩
  exact ⟨(derives_of_parseAlternative ha).1, hbare.outcome_alternative hx hxtrim ha⟩

/-- A header without a rest. -/
def bareHead : List Char := "A[b] ::".toList

theorem outcome_placed_bareHead :
    (∃ e, outcome (bareHead ++ ' ' :: "`x` B?".toList) = .ok [e] ∧
        outcome (bareHead ++ '\n' :: ' ' :: ' ' :: "`x` B?".toList) = .ok [e]) ∧
      ∃ e, outcome (bareHead ++ ' ' :: (oneOfMark ++ ' ' ::
          Text.joinWith [' '] ["`x` `y`".toList, "```".toList])) = .ok [e] ∧
        outcome (Text.joinWith ['\n'] [bareHead ++ ' ' :: oneOfMark,
          ' ' :: "`x` `y`".toList, ' ' :: ' ' :: "```".toList]) = .ok [e] := by
  have hhead : Header.parse? bareHead = some ⟨['A'], some "[b]".toList, 2, none⟩ := by decide
  obtain ⟨halternative, hlist⟩ := outcome_placed hhead rfl (by decide) (by decide)
  constructor
  · have hx : parseAlternative "`x` B?".toList =
        .ok ⟨"`x` B?".toList, [], [.terminal ['x'], .nonterminal ['B'] [] true], none⟩ := by
      with_unfolding_all rfl
    obtain ⟨-, hinline, hbelow⟩ := halternative _ _ (by decide) (by decide) hx
    exact ⟨_, hinline, hbelow _ (setIn_replicate (n := 2) (by decide) _)⟩
  · have hfirst : parseTerminals "`x` `y`".toList = .ok [['x'], ['y']] := by decide +kernel
    have hsecond : parseTerminals "```".toList = .ok [['`']] := by decide +kernel
    have hlines : ∀ x ∈ ["`x` `y`".toList, "```".toList], Text.OneLine x ∧ Text.trim x = x := by
      decide
    obtain ⟨hinline, hbelow⟩ := hlist _ _ (by simp) hlines (.cons hfirst (.cons hsecond .nil))
    exact ⟨_, hinline, hbelow _ (.cons (setIn_replicate (n := 1) (by decide) _)
      (.cons (setIn_replicate (n := 2) (by decide) _) .nil))⟩

end SpecGrammar.Notation
