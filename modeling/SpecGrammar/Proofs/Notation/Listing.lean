import SpecGrammar.Proofs.Notation.Terminals

/-!
# The one way to write a list of terminals

A backtick may stand within backticks, so a run of them could be cut at several places.

* `Listing`: a way to write one or more literals, with gaps anywhere around them;
* `Listing.write_injective`: no text is written in two ways;
* `parseTerminals_listing`: terminals are read from exactly the texts that are so written, and they are
  the literals of the one way to write the text.
-/

namespace SpecGrammar.Notation

/-- A way to write literals: each in backticks behind a gap, and a gap after the last. -/
structure Listing where
  /-- The gaps and the literals behind them. -/
  items : List (List Char × List Char)
  ending : List Char
  ne_nil : items ≠ []
  spaced : ∀ item ∈ items, Gap item.1 ∧ Literal item.2
  gap_ending : Gap ending

namespace Listing

def texts (l : Listing) : List (List Char) := l.items.map Prod.snd

/-- Gaps and literals written one after the other before a text. -/
def writeItems (items : List (List Char × List Char)) (after : List Char) : List Char :=
  items.foldr (fun item r => item.1 ++ (Token.literal item.2).text ++ r) after

def write (l : Listing) : List Char := writeItems l.items l.ending

end Listing

variable {s t g g' r r' text text' after : List Char} {texts : List (List Char)}
  {items items' : List (List Char × List Char)}

/-! ### Layouts -/

theorem laid_literals_iff :
    Laid (texts.map Token.literal) s ↔
      ∃ items after, items.map Prod.snd = texts ∧ (∀ item ∈ items, Gap item.1) ∧ Gap after ∧
        Listing.writeItems items after = s := by
  constructor
  · intro h
    induction texts generalizing s with
    | nil =>
      cases h with
      | nil hg => exact ⟨[], s, rfl, by simp, hg, rfl⟩
    | cons text texts ih =>
      rw [List.map_cons] at h
      cases h with
      | @cons g s _ _ hg _ h =>
        obtain ⟨items, after, rfl, hgaps, hafter, rfl⟩ := ih h
        exact ⟨(g, text) :: items, after, rfl, List.forall_mem_cons.2 ⟨hg, hgaps⟩, hafter, rfl⟩
  · rintro ⟨items, after, rfl, hgaps, hafter, rfl⟩
    induction items with
    | nil => exact .nil hafter
    | cons item items ih =>
      obtain ⟨hg, hgaps⟩ := List.forall_mem_cons.1 hgaps
      -- nothing behind the closing backtick could belong to the literal
      exact .cons hg (fun _ _ => rfl) (ih hgaps)

/-! ### Uniqueness -/

theorem gap_eq_of_append_eq (hg : Gap g) (hg' : Gap g') (h : g ++ '`' :: r = g' ++ '`' :: r') :
    g = g' ∧ r = r' := by
  have hhead : ∀ q : List Char, ∀ c ∈ ('`' :: q).head?, isGap c = false := fun q c hc => by
    obtain rfl := Option.some.inj hc
    decide
  have hgap : g = g' := by
    have htake := congrArg (List.takeWhile isGap) h
    rwa [Text.takeWhile_append_of_head hg (hhead r), Text.takeWhile_append_of_head hg' (hhead r')]
      at htake
  subst hgap
  exact ⟨rfl, (List.cons.inj (List.append_cancel_left h)).2⟩

/-- Where one literal is written no other is. -/
theorem literal_eq_of_append_eq (ht : Literal text) (ht' : Literal text')
    (h : (Token.literal text).text ++ r = (Token.literal text').text ++ r') :
    text = text' ∧ r = r' := by
  have hmatch := congrArg terminal? h
  have hfound : ∀ {x q}, Literal x →
      terminal? ((Token.literal x).text ++ q) = some (Token.literal x).text := fun hx =>
    terminal?_complete hx _
  rw [hfound ht, hfound ht', Option.some.injEq] at hmatch
  have htext : text = text' := by simpa [Token.literal] using hmatch
  subst htext
  exact ⟨rfl, List.append_cancel_left h⟩

theorem not_gap_of_literal (item : List Char × List Char) (items : List (List Char × List Char))
    (s : List Char) : ¬ Gap (Listing.writeItems (item :: items) s) := fun h =>
  absurd (h '`' (by simp [Listing.writeItems, Token.literal])) (by decide)

/-- Gaps hold no backtick, and a literal ends where it can be read, so everything is cut at the same
places. -/
theorem eq_of_writeItems_eq (h : ∀ item ∈ items, Gap item.1 ∧ Literal item.2)
    (h' : ∀ item ∈ items', Gap item.1 ∧ Literal item.2) (hs : Gap s) (ht : Gap t)
    (heq : Listing.writeItems items s = Listing.writeItems items' t) : items = items' ∧ s = t := by
  induction items generalizing items' with
  | nil =>
    cases items' with
    | nil => exact ⟨rfl, heq⟩
    | cons item' items' => exact absurd (heq ▸ hs) (not_gap_of_literal item' items' t)
  | cons item items ih =>
    cases items' with
    | nil => exact absurd (heq ▸ ht) (not_gap_of_literal item items s)
    | cons item' items' =>
      obtain ⟨⟨hg, htext⟩, h⟩ := List.forall_mem_cons.1 h
      obtain ⟨⟨hg', htext'⟩, h'⟩ := List.forall_mem_cons.1 h'
      have hcons : item.1 ++ ((Token.literal item.2).text ++ Listing.writeItems items s) =
          item'.1 ++ ((Token.literal item'.2).text ++ Listing.writeItems items' t) := by
        simpa [Listing.writeItems] using heq
      obtain ⟨hgap, hafter⟩ := gap_eq_of_append_eq hg hg' hcons
      obtain ⟨hliteral, hrest⟩ := literal_eq_of_append_eq htext htext' (congrArg ('`' :: ·) hafter)
      obtain ⟨rfl, rfl⟩ := ih h h' hrest
      exact ⟨by rw [Prod.ext hgap hliteral], rfl⟩

/-- No text is written in two ways. -/
theorem Listing.write_injective : Function.Injective Listing.write := by
  rintro ⟨items, ending, _, hspaced, hgap⟩ ⟨items', ending', _, hspaced', hgap'⟩ h
  obtain ⟨rfl, rfl⟩ := eq_of_writeItems_eq hspaced hspaced' hgap hgap' h
  rfl

/-! ### Reading -/

theorem parseTerminals_eq_ok_iff_write :
    parseTerminals s = .ok texts ↔ ∃ l : Listing, l.write = s ∧ l.texts = texts := by
  rw [parseTerminals_eq_ok_iff, laid_literals_iff]
  constructor
  · rintro ⟨hne, hl, items, after, rfl, hgaps, hafter, rfl⟩
    have hspaced : ∀ item ∈ items, Gap item.1 ∧ Literal item.2 := fun item hitem =>
      ⟨hgaps item hitem, hl _ (List.mem_map_of_mem hitem)⟩
    exact ⟨⟨items, after, fun hnil => hne (by rw [hnil]; rfl), hspaced, hafter⟩, rfl, rfl⟩
  · rintro ⟨⟨items, ending, hne, hspaced, hgap⟩, rfl, rfl⟩
    refine ⟨fun hnil => hne (List.map_eq_nil_iff.1 hnil), ?_, items, ending, rfl,
      fun item hitem => (hspaced item hitem).1, hgap, rfl⟩
    exact List.forall_mem_map.2 fun item hitem => (hspaced item hitem).2

/-- Literals written without any gap. -/
def Listing.unspaced (texts : List (List Char)) (hne : texts ≠ []) (h : ∀ t ∈ texts, Literal t) :
    Listing where
  items := texts.map fun text => ([], text)
  ending := []
  ne_nil := by simpa using hne
  spaced := List.forall_mem_map.2 fun t ht => ⟨by simp [Gap], h t ht⟩
  gap_ending := by simp [Gap]

theorem Listing.write_unspaced (hne : texts ≠ []) (h : ∀ t ∈ texts, Literal t) :
    (Listing.unspaced texts hne h).write = texts.flatMap fun text => (Token.literal text).text := by
  have hitems : ∀ texts : List (List Char),
      Listing.writeItems (texts.map fun text => ([], text)) [] =
        texts.flatMap fun text => (Token.literal text).text := by
    intro texts
    induction texts with
    | nil => rfl
    | cons text texts ih => rw [List.flatMap_cons, ← ih]; rfl
  exact hitems texts

theorem Listing.texts_unspaced (hne : texts ≠ []) (h : ∀ t ∈ texts, Literal t) :
    (Listing.unspaced texts hne h).texts = texts := by
  simp [Listing.texts, Listing.unspaced, Function.comp_def]

/-- Terminals are read from a text just if there is a way to write it as a list of literals, and then
there is only one; they are its literals. Without any gap between them, too, literals are read as they
are written. -/
theorem parseTerminals_listing :
    (∀ s, (∃ texts, parseTerminals s = .ok texts) ↔ ∃! l : Listing, l.write = s) ∧
      (∀ l : Listing, parseTerminals l.write = .ok l.texts) ∧
      ∀ texts : List (List Char), texts ≠ [] → (∀ t ∈ texts, Literal t) →
        parseTerminals (texts.flatMap fun text => (Token.literal text).text) = .ok texts := by
  have hread : ∀ l : Listing, parseTerminals l.write = .ok l.texts := fun l =>
    parseTerminals_eq_ok_iff_write.2 ⟨l, rfl, rfl⟩
  refine ⟨fun s => ⟨?_, ?_⟩, hread, fun texts hne h => ?_⟩
  · rintro ⟨texts, h⟩
    obtain ⟨l, hl, -⟩ := parseTerminals_eq_ok_iff_write.1 h
    exact ⟨l, hl, fun l' hl' => Listing.write_injective (hl'.trans hl.symm)⟩
  · rintro ⟨l, rfl, -⟩
    exact ⟨l.texts, hread l⟩
  · rw [← Listing.write_unspaced hne h, hread, Listing.texts_unspaced]

/-- Two backticks as literals between others, with nothing between any of them. -/
def crowded : List (List Char) := ["a", "`", "`", "b"].map String.toList

theorem parseTerminals_listing_crowded :
    crowded ≠ [] ∧ (∀ t ∈ crowded, Literal t) ∧
      parseTerminals "`a````````b`".toList = .ok crowded := by
  have hne : crowded ≠ [] := by decide
  have hliteral : ∀ t ∈ crowded, Literal t := by decide
  have hwritten : (crowded.flatMap fun text => (Token.literal text).text) = "`a````````b`".toList := by
    decide
  exact ⟨hne, hliteral, hwritten ▸ parseTerminals_listing.2.2 crowded hne hliteral⟩

end SpecGrammar.Notation
