import SpecGrammar.Proofs.Document.Normal
import SpecGrammar.Proofs.Extraction
import SpecGrammar.Proofs.Markup.Recovery
import SpecGrammar.Proofs.Notation.Form

/-!
# How often references are decoded

Literals are followed from the markup of a specification to the document that is extracted from it.

* `Becomes`, `Gives`: what a line of a body and a block come to in the document;
* `yields_of_gives`: texts yield what their blocks come to, one after the other;
* `extractDocument_literals`: in an alternative literals come out as they are meant in the markup, in a
  list they are decoded once more.
-/

namespace SpecGrammar

open Notation

/-- The alternative on a line, normalized. -/
def Becomes (line : List Char) (n : NodeSequence) : Prop :=
  ∃ a, parseAlternative line = .ok a ∧ normalizeAlternative a = .ok n

/-- What a block that can be read and normalizes contributes. -/
def Gives (block : Block) (d : Document) : Prop :=
  ∃ e, block.read = .ok e ∧ Contributes ⟨[], [e]⟩ d none

/-- The texts that a selection takes from the grammar elements among some contents. -/
def takenTexts (s : Selection) (contents : List Markup.Content) : List (List Char) :=
  (s.select ((Markup.leavesAll [] contents).mapIdx fun index leaf => leaf.fragment index)).1.map
    (·.text)

variable {s : Selection} {contents : List Markup.Content} {html text name line : List Char}
  {texts lines : List (List Char)} {rows : List (List (List Char))} {d d' : Document}
  {before after bs : List Block} {ds ds' : List Document} {block : Block}
  {e : Element} {es : List Element} {as : List Alternative} {ns : List NodeSequence}

/-! ### Blocks -/

theorem contributes_cons (h : Contributes ⟨[], [e]⟩ d none) (hs : Contributes ⟨text, es⟩ d' none) :
    Contributes ⟨text, e :: es⟩ (d.followedBy [d']) none := by
  obtain @⟨ps, qs, ss, os, hg, hp, hq⟩ := h
  obtain @⟨ps', qs', ss', os', hg', hp', hq'⟩ := hs
  have hsorts : Sorts (e :: es) (ps ++ ps') (qs ++ qs') := by
    obtain ⟨rfl, rfl⟩ := sorts_iff.1 hg
    obtain ⟨rfl, rfl⟩ := sorts_iff.1 hg'
    rw [sorts_iff, ← List.filter_append, ← List.filter_append, ← List.filterMap_append]
    exact ⟨rfl, rfl⟩
  have hcomplete := Contributes.complete (g := ⟨text, e :: es⟩) hsorts
    (List.rel_append hp hp') (List.rel_append hq hq')
  simpa [Document.followedBy] using hcomplete

theorem contributes_of_gives (text : List Char) (h : List.Forall₂ Gives bs ds) :
    ∃ es, List.Forall₂ (fun (b : Block) e => b.read = .ok e) bs es ∧
      Contributes ⟨text, es⟩ (Document.followedBy {} ds) none := by
  induction h with
  | nil => exact ⟨[], .nil, .complete .nil .nil .nil⟩
  | cons hb _ ih =>
    obtain ⟨e, he, hd⟩ := hb
    obtain ⟨es, hes, hds⟩ := ih
    refine ⟨e :: es, .cons he hes, ?_⟩
    simpa [Document.followedBy] using contributes_cons hd hds

/-- A text whose blocks can be read and normalize contributes what they do. -/
theorem parse_of_gives (hstart : (blocks (significantLines text)).1 = [])
    (h : List.Forall₂ Gives (blocks (significantLines text)).2 ds) :
    ∃ g, Grammar.parse text = .ok g ∧ Contributes g (Document.followedBy {} ds) none := by
  obtain ⟨es, hes, hd⟩ := contributes_of_gives text h
  have helements : parseElements text = .ok es :=
    parseElements_eq_ok_iff_blocks.2 ⟨hstart, mapM_eq_ok_iff.2 hes⟩
  exact ⟨⟨text, es⟩, Grammar.parse_eq_ok_iff.2 ⟨rfl, helements⟩, hd⟩

/-- Texts whose blocks can be read and normalize yield what the blocks contribute, one after the
other. -/
theorem yields_of_gives (hstart : ∀ t ∈ texts, (blocks (significantLines t)).1 = [])
    (h : List.Forall₂ Gives (texts.flatMap fun t => (blocks (significantLines t)).2) ds) :
    Yields texts (.ok (Document.followedBy {} ds)) := by
  have hpieces : ∃ gs, List.Forall₂ (fun t g => Grammar.parse t = .ok g ∧ g.Normalizes) texts gs ∧
      ∀ a : Assembly, a.extend gs = (a.followedBy ds, none) := by
    induction texts generalizing ds with
    | nil =>
      obtain rfl := List.forall₂_nil_left_iff.1 h
      exact ⟨[], .nil, fun a => by rw [Assembly.extend, Document.followedBy_nil]⟩
    | cons t texts ih =>
      obtain ⟨ht, htexts⟩ := List.forall_mem_cons.1 hstart
      rw [List.flatMap_cons] at h
      -- the blocks of the first text take as many of the documents as there are of them
      have hfirst := (List.forall₂_take_append _ _ _ h.flip).flip
      have hrest := (List.forall₂_drop_append _ _ _ h.flip).flip
      obtain ⟨g, hg, hd⟩ := parse_of_gives ht hfirst
      obtain ⟨gs, hgs, hextend⟩ := ih htexts hrest
      refine ⟨g :: gs, .cons ⟨hg, Assembly.normalizes_iff.2 ⟨_, hd⟩⟩ hgs, fun a => ?_⟩
      rw [Assembly.extend, Assembly.add_of_contributes a hd]
      simp only [hextend]
      rw [Document.followedBy_followedBy, ← Document.followedBy_append, List.take_append_drop]
  obtain ⟨gs, hgs, hextend⟩ := hpieces
  exact .document hgs (hextend {})

/-! ### Productions -/

theorem gives_of_alternatives {parameters : List (List Char)} {colons : Nat}
    (h : block.read = .ok (.production ⟨name, parameters, colons, some (.alternatives as)⟩))
    (hs : List.Forall₂ (fun a n => normalizeAlternative a = .ok n) as ns) :
    Gives block ⟨[⟨name, ns⟩], []⟩ :=
  ⟨_, h, .complete (.alternatives rfl .nil) (.cons ⟨rfl, hs⟩ .nil) .nil⟩

theorem gives_of_oneOf {parameters : List (List Char)} {colons : Nat}
    (h : block.read = .ok (.production ⟨name, parameters, colons, some (.oneOf texts)⟩))
    (hdigits : ∀ t ∈ texts, Reference.excess? t = none) :
    Gives block ⟨[], [⟨name, texts.map Reference.decode⟩]⟩ := by
  have hdecode : List.Forall₂ (fun t u => Reference.tryDecode t = .ok u) texts
      (texts.map Reference.decode) := by
    rw [List.forall₂_map_right_iff, List.forall₂_same]
    intro t ht
    rw [Reference.tryDecode, hdigits t ht]
  exact ⟨_, h, .complete (.oneOf rfl .nil) .nil (.cons ⟨rfl, texts, rfl, hdecode⟩ .nil)⟩

theorem becomes_literals (hne : texts ≠ []) (htexts : ∀ t ∈ texts, Literal t)
    (hlaid : Laid (texts.map Token.literal) line) :
    Becomes line ⟨line, texts.map .literal⟩ := by
  refine ⟨_, parseAlternative_of_literals hne htexts hlaid, ?_⟩
  have hnodes : normalize (texts.map Notation.Symbol.terminal) = .ok (texts.map .literal) := by
    refine normalize_eq_ok_iff.2 ⟨List.forall_mem_map.2 fun _ _ => trivial, ?_⟩
    rw [List.flatMap_map, List.map_eq_flatMap]
    rfl
  rw [normalizeAlternative, hnodes]
  rfl

/-- Alternatives that are written out give what each of their lines becomes. -/
theorem gives_of_becomes (h : List.Forall₂ Becomes lines ns) (hne : lines ≠ [])
    (hmark : ∀ line, lines = [line] → line.head? ≠ oneOfMark.head?)
    (hwritten : WrittenAs .alternative name lines block) : Gives block ⟨[⟨name, ns⟩], []⟩ := by
  have halternatives : ∃ as, List.Forall₂ (fun s a => parseAlternative s = .ok a) lines as ∧
      List.Forall₂ (fun a n => normalizeAlternative a = .ok n) as ns := by
    clear hne hmark hwritten
    induction h with
    | nil => exact ⟨[], .nil, .nil⟩
    | cons hline _ ih =>
      obtain ⟨a, ha, hn⟩ := hline
      obtain ⟨as, has, hns⟩ := ih
      exact ⟨a :: as, .cons ha has, .cons hn hns⟩
  obtain ⟨as, has, hns⟩ := halternatives
  obtain ⟨parameters, colons, hread⟩ := read_of_writtenAs hwritten (.alternatives hne has) hmark
  exact gives_of_alternatives hread hns

/-- A list of literals that is written out on some lines gives each of them, decoded. -/
theorem gives_of_rows (htexts : ∀ t ∈ rows.flatten, Literal t)
    (h : List.Forall₂ (fun line ts => ts ≠ [] ∧ Laid (ts.map Token.literal) line) lines rows)
    (hwritten : WrittenAs .oneOf name lines block)
    (hdigits : ∀ t ∈ rows.flatten, Reference.excess? t = none) :
    Gives block ⟨[], [⟨name, rows.flatten.map Reference.decode⟩]⟩ := by
  have hliteral : ∀ ts ∈ rows, ∀ t ∈ ts, Literal t :=
    fun ts hts t ht => htexts t (List.mem_flatten_of_mem hts ht)
  have hread : List.Forall₂ (fun ts s => parseTerminals s = .ok ts) rows lines :=
    ((List.forall₂_and_left rows lines).2 ⟨hliteral, h.flip⟩).imp
      fun ts s ⟨hts, hne, hlaid⟩ => parseTerminals_of_literals hne hts hlaid
  have hmark : ∀ line, lines = [line] → line.head? ≠ oneOfMark.head? := by
    rintro line rfl
    obtain ⟨ts, _, ⟨hne, hlaid⟩, -, -⟩ := List.forall₂_cons_left_iff.1 h
    exact head?_ne_of_literals hne hlaid
  obtain ⟨parameters, colons, hproduction⟩ := read_of_writtenAs hwritten (.oneOf hread.flip) hmark
  exact gives_of_oneOf hproduction hdigits

/-! ### Documents -/

/-- The blocks of the selected texts come to the document, one after the other. -/
theorem extractDocument_of_gives (hshown : Markup.ShowsAll contents html)
    (hstart : ∀ t ∈ takenTexts s contents, (blocks (significantLines t)).1 = [])
    (hblocks : (takenTexts s contents).flatMap (fun t => (blocks (significantLines t)).2) =
      before ++ block :: after)
    (hbefore : List.Forall₂ Gives before ds) (hafter : List.Forall₂ Gives after ds')
    (h : Gives block d) :
    (extractDocument s html).1 = .ok (Document.followedBy {} (ds ++ d :: ds')) := by
  have htexts : selectedTexts s html = .ok (takenTexts s contents) := by
    rw [selectedTexts, Markup.extractFragments_of_showsAll hshown]
    rfl
  refine extractDocument_of_yields htexts (yields_of_gives hstart ?_)
  rw [hblocks]
  exact List.rel_append hbefore (.cons h hafter)

/-- Let the markup show contents in which a selection takes texts, one block of which is a production of
literals. As one alternative of the production the literals come out as nodes with just their texts. As
a list they come out with every reference in their texts decoded, unless one of these has too many
digits; so they come out as they are if none of them holds a reference. -/
theorem extractDocument_literals (hshown : Markup.ShowsAll contents html)
    (hstart : ∀ t ∈ takenTexts s contents, (blocks (significantLines t)).1 = [])
    (hblocks : (takenTexts s contents).flatMap (fun t => (blocks (significantLines t)).2) =
      before ++ block :: after)
    (hbefore : List.Forall₂ Gives before ds) (hafter : List.Forall₂ Gives after ds')
    (hne : texts ≠ []) (htexts : ∀ t ∈ texts, Literal t) :
    (∀ line lines lines' ns ns', Laid (texts.map Token.literal) line →
      List.Forall₂ Becomes lines ns → List.Forall₂ Becomes lines' ns' →
      WrittenAs .alternative name (lines ++ line :: lines') block →
        (extractDocument s html).1 = .ok (Document.followedBy {}
          (ds ++ ⟨[⟨name, ns ++ ⟨line, texts.map .literal⟩ :: ns'⟩], []⟩ :: ds'))) ∧
      ∀ lines rows, rows.flatten = texts →
        List.Forall₂ (fun line ts => ts ≠ [] ∧ Laid (ts.map Token.literal) line) lines rows →
        WrittenAs .oneOf name lines block →
          ((∀ t ∈ texts, Reference.excess? t = none) →
            (extractDocument s html).1 = .ok (Document.followedBy {}
              (ds ++ ⟨[], [⟨name, texts.map Reference.decode⟩]⟩ :: ds'))) ∧
          ((∀ t ∈ texts, Reference.Free t) →
            (extractDocument s html).1 = .ok (Document.followedBy {}
              (ds ++ ⟨[], [⟨name, texts⟩]⟩ :: ds'))) := by
  have hdocument {d : Document} (h : Gives block d) :=
    extractDocument_of_gives hshown hstart hblocks hbefore hafter h
  -- the two forms differ only in what the block of the literals gives
  constructor
  · intro line lines lines' ns ns' hlaid hlines hlines' hwritten
    have hall := List.rel_append hlines (.cons (becomes_literals hne htexts hlaid) hlines')
    refine hdocument (gives_of_becomes hall (by simp) ?_ hwritten)
    intro single hsingle
    have hmem : line ∈ [single] := hsingle ▸ List.mem_append_right lines List.mem_cons_self
    obtain rfl := List.mem_singleton.1 hmem
    exact head?_ne_of_literals hne hlaid
  · rintro lines rows rfl hrows hwritten
    refine ⟨fun hdigits => hdocument (gives_of_rows htexts hrows hwritten hdigits), fun hfree => ?_⟩
    have hdecode : rows.flatten.map Reference.decode = rows.flatten :=
      (List.map_congr_left fun t ht => (Reference.decode_of_free (hfree t ht)).1).trans
        (List.map_id _)
    have hgives := gives_of_rows htexts hrows hwritten fun t ht =>
      (Reference.decode_of_free (hfree t ht)).2
    rw [hdecode] at hgives
    exact hdocument hgives

/-! ### A page with one production -/

namespace Markup

/-- A text in which ampersands and angle brackets are written as references. -/
def escapeText (s : List Char) : List Char :=
  s.flatMap fun c => if c ∈ ['&', '<', '>'] then Reference.escapeCharacter c else [c]

theorem escaped_escapeText (s : List Char) : Escaped s (escapeText s) := by
  induction s with
  | nil => exact .nil
  | cons c s ih =>
    rw [escapeText, List.flatMap_cons]
    split
    · exact .reference ih
    · rename_i hc
      refine .plain ?_ ih
      simp only [List.mem_cons, not_or] at hc
      simp [isPlain, hc]

def clauseName : ElementName := ⟨⟨"emu-clause".toList, by decide, by decide⟩, by decide⟩

def single (name : Name) (value : String) : Attributes :=
  ⟨[(name, some value.toList)], List.nodup_singleton _⟩

def identified (id : String) : Attributes := single ⟨"id".toList, by decide, by decide⟩ id

def definition : Attributes := single ⟨"type".toList, by decide, by decide⟩ "definition"

/-- A grammar element that is selected. -/
def page (text : VisibleText) : List Content :=
  [.element clauseName (identified "sec-ecmascript-language-expressions")
    [.element clauseName (identified "sec-x") [.grammar definition text]]]

def pageOpening : List Char :=
  ("<emu-clause id=\"sec-ecmascript-language-expressions\"><emu-clause id=\"sec-x\">" ++
    "<emu-grammar type=\"definition\">").toList

def pageClosing : List Char := "</emu-grammar></emu-clause></emu-clause>".toList

/-- The markup of a page. -/
def pageOf (text : List Char) : List Char := pageOpening ++ (escapeText text ++ pageClosing)

theorem pageOpening_eq :
    pageOpening = writeStart clauseName.toName (identified "sec-ecmascript-language-expressions") ++
      (writeStart clauseName.toName (identified "sec-x") ++ writeStart grammarName definition) := by
  decide +kernel

theorem pageClosing_eq :
    pageClosing = writeEnd grammarName ++
      (writeEnd clauseName.toName ++ writeEnd clauseName.toName) := by
  decide +kernel

theorem showsAll_page (text : VisibleText) : ShowsAll (page text) (pageOf text.text) := by
  have h : ShowsAll (page text) _ :=
    .cons (.element (.cons (.element (.cons (.grammar (escaped_escapeText text.text)) .nil)) .nil))
      .nil
  rw [pageOf, pageOpening_eq, pageClosing_eq]
  simpa only [List.append_nil, List.append_assoc] using h

end Markup

theorem blocks_of_page (page : Markup.VisibleText)
    (h : blocks (significantLines page.text) = ([], [block])) :
    (∀ t ∈ takenTexts {} (Markup.page page), (blocks (significantLines t)).1 = []) ∧
      (takenTexts {} (Markup.page page)).flatMap (fun t => (blocks (significantLines t)).2) =
        [] ++ block :: [] := by
  have htaken : takenTexts {} (Markup.page page) = [page.text] := rfl
  rw [htaken]
  simp [h]

/-- Literals on a line, with spaces between them. -/
def literalLine (texts : List (List Char)) : List Char :=
  Text.joinWith [' '] ((texts.map Token.literal).map Token.text)

theorem laid_literalLine (texts : List (List Char)) :
    Laid (texts.map Token.literal) (literalLine texts) :=
  Laid.joinWith fun t ht => by
    obtain ⟨text, -, rfl⟩ := List.mem_map.1 ht
    exact nofun

/-- The reference for a less-than sign. -/
def lessThan : List Char := "&lt;".toList

theorem decode_lessThan :
    Reference.decode lessThan = ['<'] ∧ Reference.excess? lessThan = none := by
  have hescape : Reference.escape ['<'] = lessThan := by decide
  exact hescape ▸ Reference.decode_escape ['<']

theorem map_decode_lessThan : [lessThan].map Reference.decode = [['<']] :=
  congrArg (fun text => [text]) decode_lessThan.1

/-- A list of the reference alone. -/
def lessThanPage : Markup.VisibleText := ⟨"A :: one of `&lt;`".toList, by decide⟩

theorem written_lessThanPage :
    Header.Written ⟨['A'], none, 2, some "one of `&lt;`".toList⟩ lessThanPage.text :=
  Header.written_of_parse? (by decide)

theorem blocks_lessThanPage :
    blocks (significantLines lessThanPage.text) = ([], [⟨lessThanPage.text, []⟩]) :=
  blocks_of_rows written_lessThanPage (by decide)
    (show Text.Plain (Text.joinWith ['\n'] [lessThanPage.text]) by decide) (by decide)
    (List.forall_mem_nil _)

theorem literal_lessThan : ∀ t ∈ [lessThan], Literal t := by
  decide

theorem extractDocument_literals_page :
    (extractDocument {} (Markup.pageOf "A :\n  `&lt;` `&&=`".toList)).1 =
        .ok ⟨[⟨['A'], [⟨"`&lt;` `&&=`".toList, [.literal lessThan, .literal "&&=".toList]⟩]⟩], []⟩ ∧
      (extractDocument {} (Markup.pageOf "A :: one of `&lt;`".toList)).1 =
        .ok ⟨[], [⟨['A'], [['<']]⟩]⟩ ∧
      (extractDocument {} (Markup.pageOf "A :: one of `&&=` `&`".toList)).1 =
        .ok ⟨[], [⟨['A'], ["&&=".toList, ['&']]⟩]⟩ := by
  refine ⟨?_, ?_, ?_⟩
  · have hne : [lessThan, "&&=".toList] ≠ [] := by decide
    have htexts : ∀ t ∈ [lessThan, "&&=".toList], Literal t := by
      decide
    have hlaid := laid_literalLine [lessThan, "&&=".toList]
    let row : List Char := "  `&lt;` `&&=`".toList
    let page : Markup.VisibleText := ⟨Text.joinWith ['\n'] ["A :".toList, row], by decide⟩
    have hhead : Header.Written ⟨['A'], none, 1, none⟩ "A :".toList :=
      Header.written_of_parse? (by decide)
    have hread : Accepted (Text.trim row) := .inr ⟨_, parseTerminals_of_literals hne htexts hlaid⟩
    have hrows : ∀ r ∈ [row], r.head?.any Text.isBlank = true ∧ Accepted (Text.trim r) :=
      List.forall_mem_singleton.2 ⟨by decide, hread⟩
    have hblock := blocks_of_rows hhead (by decide) (show Text.Plain page.text by decide)
      (by decide) hrows
    obtain ⟨hstart, hblocks⟩ := blocks_of_page page hblock
    obtain ⟨h, -⟩ := extractDocument_literals (Markup.showsAll_page page) hstart hblocks .nil .nil
      hne htexts
    exact h _ [] [] [] [] hlaid .nil .nil (.below hhead)
  · obtain ⟨hstart, hblocks⟩ := blocks_of_page lessThanPage blocks_lessThanPage
    obtain ⟨-, h⟩ := extractDocument_literals (Markup.showsAll_page lessThanPage) hstart hblocks
      .nil .nil (by decide) literal_lessThan
    have hlist := (h _ [_] rfl (.cons ⟨by decide, laid_literalLine [lessThan]⟩ .nil)
      (.inline written_lessThanPage)).1 (List.forall_mem_singleton.2 decode_lessThan.2)
    rwa [map_decode_lessThan] at hlist
  · have hne : ["&&=".toList, ['&']] ≠ [] := by decide
    have htexts : ∀ t ∈ ["&&=".toList, ['&']], Literal t := by
      decide
    have hlaid := laid_literalLine ["&&=".toList, ['&']]
    let page : Markup.VisibleText := ⟨"A :: one of `&&=` `&`".toList, by decide⟩
    have hhead : Header.Written ⟨['A'], none, 2, some "one of `&&=` `&`".toList⟩ page.text :=
      Header.written_of_parse? (by decide)
    have hblock := blocks_of_rows hhead (by decide)
      (show Text.Plain (Text.joinWith ['\n'] [page.text]) by decide) (by decide)
      (List.forall_mem_nil _)
    obtain ⟨hstart, hblocks⟩ := blocks_of_page page hblock
    obtain ⟨-, h⟩ := extractDocument_literals (Markup.showsAll_page page) hstart hblocks .nil .nil
      hne htexts
    exact (h _ [_] rfl (.cons ⟨hne, hlaid⟩ .nil) (.inline hhead)).2 (by decide)

/-- Not all lists of literals come out as they are. -/
theorem not_forall_extractDocument_list :
    ¬ ∀ texts : List (List Char), texts ≠ [] →
      (∀ t ∈ texts, t ≠ [] ∧ ∀ c ∈ t, c ≠ '`' ∧ Text.isBlank c = false) →
        (extractDocument {} (Markup.pageOf ("A :: one of ".toList ++ literalLine texts))).1 =
          .ok ⟨[], [⟨['A'], texts⟩]⟩ := by
  intro h
  have hregular : lessThan.all (fun c => c != '`' && !Text.isBlank c) = true := by decide
  have hclaimed := h [lessThan] (by decide)
    (List.forall_mem_singleton.2 ⟨by decide, by simpa using hregular⟩)
  obtain ⟨hstart, hblocks⟩ := blocks_of_page lessThanPage blocks_lessThanPage
  have hgives : Gives ⟨lessThanPage.text, []⟩ ⟨[], [⟨['A'], [['<']]⟩]⟩ :=
    map_decode_lessThan ▸ gives_of_rows
      (show ∀ t ∈ [[lessThan]].flatten, Literal t from literal_lessThan)
      (.cons ⟨by decide, laid_literalLine [lessThan]⟩ .nil) (.inline written_lessThanPage)
      (List.forall_mem_singleton.2 decode_lessThan.2)
  have hactual := extractDocument_of_gives (Markup.showsAll_page lessThanPage) hstart hblocks
    .nil .nil hgives
  exact absurd (Except.ok.inj (hclaimed.symm.trans hactual)) (by decide)

end SpecGrammar
