import SpecGrammar.Proofs.Notation.Disjoint
import SpecGrammar.Proofs.Notation.Soundness
import SpecGrammar.Proofs.Text.Tabs

/-!
# Alternatives as they stand in the text

* `Grammar.sources`: the texts of all alternatives, in order;
* `inOrder_flushLines`: taking off the margin and cutting into lines leaves parts of the text in their
  order;
* `sublistForall₂_sources`: each alternative is part of a line, and no two are parts of the same;
* `sources_expanded`: the texts of the alternatives are parts of the text that is read, one after the
  other, with their tabs expanded.
-/

namespace SpecGrammar.Notation

/-- The texts of the alternatives of a body. -/
def bodySources : Option Body → List (List Char)
  | some (.alternatives alternatives) => alternatives.map (·.source)
  | _ => []

def Element.sources : Element → List (List Char)
  | .directive _ => []
  | .production p => bodySources p.body

/-- The texts of all alternatives, over all productions and in order. -/
def Grammar.sources (g : Grammar) : List (List Char) := g.elements.flatMap Element.sources

variable {s t text r row line head : List Char} {ws us vs pieces lines body : List (List Char)}
  {c : Char} {column : Nat} {e : Element} {g : Grammar}

/-! ### Parts of parts -/

/-- What is part of texts that stand in order stands in order, if no two are parts of the same. -/
theorem InOrder.of_sublistForall₂ (h : List.SublistForall₂ (· <:+: ·) ws lines) (hs : InOrder lines s) :
    InOrder ws s := by
  induction h generalizing s with
  | nil => exact .nil s
  | @cons w _ ws _ hw _ ih =>
    obtain ⟨p, q, rfl⟩ := hw
    cases hs with
    | @cons _ r _ a hr =>
      have hword : InOrder (w :: ws) ((a ++ p) ++ w ++ (q ++ r)) := .cons (a ++ p) ((ih hr).prepend q)
      simpa using hword
  | cons_right _ ih =>
    cases hs with
    | cons a hr => exact (ih hr).prepend _

/-- Words without a character stand on either side of it. -/
theorem InOrder.split (h : InOrder ws (s ++ c :: t)) (hc : ∀ w ∈ ws, c ∉ w) :
    ∃ us vs, ws = us ++ vs ∧ InOrder us s ∧ InOrder vs t := by
  generalize hu : s ++ c :: t = u at h
  induction h generalizing s with
  | nil => exact ⟨[], [], rfl, .nil s, .nil t⟩
  | @cons w r ws a h ih =>
    obtain ⟨hw, hws⟩ := List.forall_mem_cons.1 hc
    have hbefore : ∀ x, s = a ++ w ++ x → x ++ c :: t = r →
        ∃ us vs, w :: ws = us ++ vs ∧ InOrder us s ∧ InOrder vs t := by
      rintro x rfl hr
      obtain ⟨us, vs, rfl, hus, hvs⟩ := ih hws hr
      exact ⟨w :: us, vs, rfl, .cons a hus, hvs⟩
    rcases List.append_eq_append_iff.1 hu with ⟨x, hx, hr⟩ | ⟨x, hx, hr⟩
    · cases x with
      | nil => exact hbefore [] (by simpa using hx.symm) (by simpa using hr)
      | cons d x =>
        -- the character stands before the end of the word, and so before the word
        obtain ⟨rfl, rfl⟩ := List.cons.inj hr
        rcases List.append_eq_append_iff.1 hx with ⟨y, -, hword⟩ | ⟨y, -, hword⟩
        · exact (hw (by rw [hword]; simp)).elim
        · cases y with
          | nil => exact (hw (by rw [← List.nil_append w, ← hword]; simp)).elim
          | cons e y =>
            obtain ⟨rfl, rfl⟩ := List.cons.inj hword
            exact ⟨[], w :: ws, rfl, .nil s, .cons y h⟩
    · exact hbefore x hx hr.symm

/-! ### Lines -/

theorem InOrder.of_tail
    (h : ∀ line lines, pieces = line :: lines → ∃ r, s = line ++ r ∧ InOrder lines r) :
    InOrder pieces s := by
  cases pieces with
  | nil => exact .nil s
  | cons line lines =>
    obtain ⟨r, rfl, hr⟩ := h line lines rfl
    exact .cons [] hr

/-- The first line stands at the beginning, and the others in order behind it. -/
theorem exists_inOrder_of_splitLines :
    ∀ line lines, Text.splitLines s = line :: lines → ∃ r, s = line ++ r ∧ InOrder lines r := by
  fun_induction Text.splitLines s with
  | case1 => simp
  | case2 r ih =>
    rintro _ _ ⟨⟩
    exact ⟨_, rfl, (InOrder.of_tail ih).prepend ['\r', '\n']⟩
  | case3 c r _ _ ih =>
    rintro _ _ ⟨⟩
    exact ⟨_, rfl, (InOrder.of_tail ih).prepend [c]⟩
  | case4 c r _ _ hr ih =>
    rintro _ _ ⟨⟩
    exact ⟨r, rfl, .nil r⟩
  | case5 c r _ _ first rest hr ih =>
    rintro _ _ ⟨⟩
    obtain ⟨q, rfl, hq⟩ := ih first rest hr
    exact ⟨q, rfl, hq⟩

theorem inOrder_splitLines (s : List Char) : InOrder (Text.splitLines s) s :=
  .of_tail exists_inOrder_of_splitLines

theorem feed_not_mem_splitLines (s : List Char) : ∀ line ∈ Text.splitLines s, '\n' ∉ line := by
  fun_induction Text.splitLines s with
  | case1 => simp
  | case2 r ih => simpa using ih
  | case3 c r _ _ ih => simpa using ih
  | case4 c r _ hc _ ih =>
    simp only [List.mem_singleton, forall_eq]
    rintro rfl
    exact hc (by decide)
  | case5 c r _ hc first rest hr ih =>
    rw [hr] at ih
    obtain ⟨hfirst, hrest⟩ := List.forall_mem_cons.1 ih
    refine List.forall_mem_cons.2 ⟨?_, hrest⟩
    rw [List.mem_cons, not_or]
    refine ⟨?_, hfirst⟩
    rintro rfl
    exact hc (by decide)

/-- What stands in order in the ends of the rows stands so in the rows. -/
theorem InOrder.of_suffixes {f : List Char → List Char} (hf : ∀ row, f row <:+ row)
    (h : InOrder ws (Text.joinWith ['\n'] (pieces.map f))) (hws : ∀ w ∈ ws, '\n' ∉ w) :
    InOrder ws (Text.joinWith ['\n'] pieces) := by
  induction pieces generalizing ws with
  | nil => exact h
  | cons piece pieces ih =>
    obtain ⟨front, hpiece⟩ := hf piece
    by_cases hlast : pieces = []
    · subst hlast
      have hprepended : InOrder ws (front ++ f piece) := h.prepend front
      rwa [hpiece] at hprepended
    · rw [List.map_cons, Text.joinWith_cons (by simpa using hlast), List.append_assoc,
        List.singleton_append] at h
      obtain ⟨us, vs, rfl, hus, hvs⟩ := h.split hws
      obtain ⟨-, hvs'⟩ := List.forall_mem_append.1 hws
      rw [Text.joinWith_cons hlast, List.append_assoc, ← hpiece]
      exact (hus.prepend front).append ((ih hvs hvs').prepend ['\n'])

/-- The lines of a text stand in order in what it is when tabs are expanded. -/
theorem inOrder_flushLines (s : List Char) : InOrder (Text.flushLines s) (Text.expandTabs s) := by
  have hlines := inOrder_splitLines (Text.dropMargin (Text.expandTabs s))
  have hsuffix : ∀ n row, (if Text.isInked row then row.drop n else []) <:+ row := by
    intro n row
    split
    · exact List.drop_suffix n row
    · exact List.nil_suffix
  have hrows : InOrder (Text.flushLines s) (Text.joinWith ['\n'] (Text.rows (Text.expandTabs s))) :=
    .of_suffixes (hsuffix _) hlines (feed_not_mem_splitLines _)
  rwa [Text.joinWith_rows] at hrows

/-! ### Alternatives in lines -/

/-- A text that trimming leaves something of, and leaves as it is. -/
def Trimmed (s : List Char) : Prop := s ≠ [] ∧ Text.trim s = s

theorem text_of_ofText? {l : Line} (h : Line.ofText? row = some l) :
    l.text <:+: row ∧ Trimmed l.text := by
  unfold Line.ofText? at h
  dsimp only at h
  split at h
  · cases h
  · next hcounts =>
    obtain rfl := Option.some.inj h
    have hne : Text.trim row ≠ [] := fun hnil => hcounts (by simp [hnil])
    exact ⟨Text.trim_isInfix row, hne, Text.trim_trim row⟩

/-- Each line that counts is part of a line of its own. -/
theorem sublistForall₂_significantLines (s : List Char) :
    List.SublistForall₂ (· <:+: ·) ((significantLines s).map (·.text)) (Text.flushLines s) := by
  unfold significantLines
  induction Text.flushLines s with
  | nil => exact .nil
  | cons row rows ih =>
    cases h : Line.ofText? row with
    | none =>
      rw [List.filterMap_cons_none h]
      exact .cons_right ih
    | some l =>
      rw [List.filterMap_cons_some h, List.map_cons]
      exact .cons (text_of_ofText? h).1 ih

theorem texts_blocks (lines : List Line) :
    lines.map (·.text) =
      (blocks lines).1 ++ (blocks lines).2.flatMap fun block => block.head :: block.body := by
  induction lines with
  | nil => rfl
  | cons l lines ih =>
    rw [blocks, List.map_cons, ih]
    cases l.indented <;> simp

theorem Header.Written.rest_isInfix {header : Header} {rest : List Char} (h : header.Written head)
    (hrest : header.rest = some rest) : rest <:+: head ∧ Trimmed rest := by
  cases h with
  | @mk c r brackets gap tail _ _ colons _ _ _ _ _ ht =>
    obtain rfl := hrest
    cases ht with
    | @present a _ b _ _ _ hne htrim _ =>
      refine ⟨⟨c :: r ++ (brackets ++ (gap ++ (List.replicate colons ':' ++ a))), b, ?_⟩, hne, htrim⟩
      simp

theorem map_source_eq {as : List Alternative}
    (h : List.Forall₂ (fun s a => parseAlternative s = .ok a) body as) : as.map (·.source) = body := by
  induction h with
  | nil => rfl
  | cons ha _ ih => rw [List.map_cons, (derives_of_parseAlternative ha).1, ih]

/-- The alternatives of a body are the lines below its header, or one part of the header. -/
theorem HasBody.sources {header : Header} {b : Option Body} (h : HasBody header body b)
    (hw : header.Written head) (hbody : ∀ line ∈ body, Trimmed line) :
    List.SublistForall₂ (· <:+: ·) (bodySources b) (head :: body) ∧
      ∀ source ∈ bodySources b, Trimmed source := by
  cases h with
  | absent | oneOf | inlineOneOf => exact ⟨.nil, by simp [bodySources]⟩
  | alternatives _ _ hb =>
    have hself : List.SublistForall₂ (· <:+: ·) body body :=
      List.sublistForall₂_iff.2 ⟨body, List.forall₂_refl body, List.Sublist.refl body⟩
    rw [bodySources, map_source_eq hb]
    exact ⟨.cons_right hself, hbody⟩
  | @inline rest a hrest _ _ ha =>
    obtain ⟨hpart, htrimmed⟩ := hw.rest_isInfix hrest
    rw [bodySources, List.map_singleton, (derives_of_parseAlternative ha).1]
    exact ⟨.cons hpart .nil, by simpa using htrimmed⟩

theorem Reads.sources (h : Reads head body e) (hbody : ∀ line ∈ body, Trimmed line) :
    List.SublistForall₂ (· <:+: ·) e.sources (head :: body) ∧ ∀ source ∈ e.sources, Trimmed source := by
  cases h with
  | directive => exact ⟨.nil, by simp [Element.sources]⟩
  | production hheader hb => exact hb.sources (Header.written_of_parse? hheader) hbody

theorem sublistForall₂_append {R : List Char → List Char → Prop} {l l' m m' : List (List Char)}
    (h : List.SublistForall₂ R l m) (h' : List.SublistForall₂ R l' m') :
    List.SublistForall₂ R (l ++ l') (m ++ m') := by
  obtain ⟨q, hq, hsub⟩ := List.sublistForall₂_iff.1 h
  obtain ⟨q', hq', hsub'⟩ := List.sublistForall₂_iff.1 h'
  exact List.sublistForall₂_iff.2 ⟨q ++ q', List.rel_append hq hq', hsub.append hsub'⟩

theorem sources_of_blocks {bs : List Block} {es : List Element}
    (h : List.Forall₂ (fun b e => Block.read b = .ok e) bs es)
    (hbody : ∀ b ∈ bs, ∀ line ∈ b.body, Trimmed line) :
    List.SublistForall₂ (· <:+: ·) (es.flatMap Element.sources)
        (bs.flatMap fun b => b.head :: b.body) ∧
      ∀ source ∈ es.flatMap Element.sources, Trimmed source := by
  induction h with
  | nil => exact ⟨.nil, by simp⟩
  | cons he _ ih =>
    obtain ⟨hfirst, hrest⟩ := List.forall_mem_cons.1 hbody
    obtain ⟨hpart, htrimmed⟩ := (Block.read_iff.1 he).sources hfirst
    obtain ⟨hparts, htrimmeds⟩ := ih hrest
    rw [List.flatMap_cons, List.flatMap_cons]
    exact ⟨sublistForall₂_append hpart hparts, List.forall_mem_append.2 ⟨htrimmed, htrimmeds⟩⟩

/-- Each alternative is part of a line of its own, in order, and trimmed. -/
theorem sublistForall₂_sources (h : Grammar.parse text = .ok g) :
    List.SublistForall₂ (· <:+: ·) g.sources (Text.flushLines text) ∧
      ∀ source ∈ g.sources, Trimmed source := by
  obtain ⟨-, hes⟩ := Grammar.parse_eq_ok_iff.1 h
  obtain ⟨hnone, hblocks⟩ := parseElements_eq_ok_iff_blocks.1 hes
  have htexts := texts_blocks (significantLines text)
  rw [hnone, List.nil_append] at htexts
  have htrimmed : ∀ l ∈ (significantLines text).map (·.text), Trimmed l := by
    refine List.forall_mem_map.2 fun l hl => ?_
    obtain ⟨row, -, hrow⟩ := List.mem_filterMap.1 hl
    exact (text_of_ofText? hrow).2
  have hbody : ∀ b ∈ (blocks (significantLines text)).2, ∀ line ∈ b.body, Trimmed line := by
    intro b hb line hline
    refine htrimmed line ?_
    rw [htexts]
    exact List.mem_flatMap.2 ⟨b, hb, List.mem_cons_of_mem _ hline⟩
  obtain ⟨hparts, hsources⟩ := sources_of_blocks (mapM_eq_ok_iff.1 hblocks) hbody
  rw [← htexts] at hparts
  exact ⟨IsTrans.trans _ _ _ hparts (sublistForall₂_significantLines text), hsources⟩

/-! ### Alternatives in the text -/

/-- Trimmed texts that stand in order where tabs are expanded come of parts in order. -/
theorem InOrder.expanded (h : InOrder ws t) (ht : t = Text.expandTabsFrom column s)
    (hws : ∀ w ∈ ws, Trimmed w) : ∃ parts, Text.Expanded column parts ws s := by
  induction h generalizing column s with
  | nil => exact ⟨[], .nil column s⟩
  | @cons w r ws a _ ih =>
    obtain ⟨⟨hne, htrim⟩, hrest⟩ := List.forall_mem_cons.1 hws
    obtain ⟨before, part, after, rfl, rfl, hr⟩ := Text.exists_part_of_expandTabsFrom ht.symm hne htrim
    obtain ⟨parts, hparts⟩ := ih hr.symm hrest
    exact ⟨part :: parts, .cons before hparts⟩

theorem inOrder_of_expanded {parts : List (List Char)}
    (h : Text.Expanded column parts ws s) : InOrder parts s := by
  induction h with
  | nil => exact .nil _
  | cons before _ ih => exact .cons before ih

/-- The texts of the alternatives that are read, over all productions and in order, are parts of the text,
one behind the other, as they are when tabs are expanded; a part is left alone just if it holds no tab. If
none holds one, the alternatives stand in the text as they are. -/
theorem sources_expanded (h : Grammar.parse text = .ok g) :
    ∃ parts, Text.Expanded 0 parts g.sources text ∧
      List.Forall₂ (fun part source => source = part ↔ '\t' ∉ part) parts g.sources ∧
      ((∀ part ∈ parts, '\t' ∉ part) → InOrder g.sources text) := by
  obtain ⟨hparts, htrimmed⟩ := sublistForall₂_sources h
  have horder := (inOrder_flushLines text).of_sublistForall₂ hparts
  obtain ⟨parts, hexpanded⟩ := horder.expanded rfl htrimmed
  refine ⟨parts, hexpanded, hexpanded.forall₂, fun htab => ?_⟩
  have horiginal := inOrder_of_expanded hexpanded
  rwa [← hexpanded.eq_of_not_mem htab] at horiginal

/-- Alternatives that are set in by tabs, with a tab within the first of them. -/
def tabbed : List Char := "A :\n\t`a`\t`b`\n\t`c`".toList

theorem sources_expanded_tabbed :
    ∃ g parts, Grammar.parse tabbed = .ok g ∧
      g.sources = ["`a`     `b`", "`c`"].map String.toList ∧ Text.Expanded 0 parts g.sources tabbed := by
  have hsources : (Grammar.parse tabbed).toOption.map Grammar.sources =
      some (["`a`     `b`", "`c`"].map String.toList) := by decide +kernel
  cases hparse : Grammar.parse tabbed with
  | error e =>
    rw [hparse] at hsources
    cases hsources
  | ok g =>
    rw [hparse] at hsources
    obtain ⟨parts, hexpanded, -⟩ := sources_expanded hparse
    exact ⟨g, parts, rfl, Option.some.inj hsources, hexpanded⟩

end SpecGrammar.Notation
