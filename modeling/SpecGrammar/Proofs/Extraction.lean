import SpecGrammar.Extraction
import SpecGrammar.Proofs.Document.Assembly

/-!
# What an extraction depends on

* `selectedTexts`: the texts of the fragments that are taken from a document;
* `Yields`: what texts yield, a document if each of them can be read and normalizes, and otherwise the
  failure of the first that does not;
* `fst_extractDocument`: what is extracted from a document is what comes of assembling its selected texts;
* `extractDocument_yields`: what is extracted from a document is what its selected texts yield, so
  nothing else of the document matters, nor do the texts after the first that fails.
-/

namespace SpecGrammar

open Notation

/-- The texts of the fragments that a selection takes from a document, in order. -/
def selectedTexts (s : Selection) (html : List Char) :
    Except Markup.Refusal (List (List Char)) :=
  (Markup.extractFragments html).map fun fragments => (s.select fragments).1.map (·.text)

/-- A text that can be read and normalizes. -/
def Sound (text : List Char) : Prop := ∃ g, Grammar.parse text = .ok g ∧ g.Normalizes

/-- How a text fails: it cannot be read, or else meets an obstacle. -/
inductive Fails (text : List Char) : ExtractionError → Prop
  | unreadable {defect : Defect} (h : Grammar.parse text = .error defect) :
      Fails text (.unreadable text defect)
  | obstructed {g : Grammar} {d : Document} {o : Obstacle} (h : Grammar.parse text = .ok g)
      (hg : Contributes g d (some o)) : Fails text (.obstructed o)

/-- What texts yield: the document that their pieces make when they are added in order, or the failure
of the first text that fails. -/
inductive Yields (texts : List (List Char)) : Except ExtractionError Document → Prop
  | document {gs : List Grammar} {d : Document}
      (h : List.Forall₂ (fun t g => Grammar.parse t = .ok g ∧ g.Normalizes) texts gs)
      (hd : Assembly.extend {} gs = (d, none)) : Yields texts (.ok d)
  | failure {before after : List (List Char)} {t : List Char} {e : ExtractionError}
      (h : texts = before ++ t :: after) (hbefore : ∀ u ∈ before, Sound u) (ht : Fails t e) :
      Yields texts (.error e)

/-! ### Single texts -/

/-- The obstacle that a text meets on its own, if there is one; nothing if the text cannot be read. -/
def obstacle? (text : List Char) : Option (Option Obstacle) :=
  (Grammar.parse text).toOption.map fun g => (Assembly.add {} g).2

section Texts

variable {t : List Char} {g : Grammar} {d : Document} {o : Option Obstacle} {e : ExtractionError}

theorem obstacle?_of_parse (h : Grammar.parse t = .ok g) (hg : Contributes g d o) :
    obstacle? t = some o := by
  rw [obstacle?, h, Except.toOption, Option.map_some, Assembly.add_of_contributes {} hg]

theorem obstacle?_cases (t : List Char) :
    (∃ defect, Grammar.parse t = .error defect) ∧ obstacle? t = none ∨
      ∃ g d o, Grammar.parse t = .ok g ∧ Contributes g d o ∧ obstacle? t = some o := by
  cases h : Grammar.parse t with
  | error defect => exact .inl ⟨⟨defect, rfl⟩, by rw [obstacle?, h]; rfl⟩
  | ok g =>
    obtain ⟨d, o, hg⟩ := Assembly.exists_contributes g
    exact .inr ⟨g, d, o, rfl, hg, obstacle?_of_parse h hg⟩

theorem sound_iff : Sound t ↔ obstacle? t = some none := by
  constructor
  · rintro ⟨g, hg, hn⟩
    obtain ⟨d, hd⟩ := Assembly.normalizes_iff.1 hn
    exact obstacle?_of_parse hg hd
  · intro h
    rcases obstacle?_cases t with ⟨-, hnone⟩ | ⟨g, d, o, hg, hd, ho⟩
    · exact absurd (hnone.symm.trans h) (by simp)
    · obtain rfl := Option.some.inj (ho.symm.trans h)
      exact ⟨g, hg, Assembly.normalizes_iff.2 ⟨d, hd⟩⟩

instance (t : List Char) : Decidable (Sound t) := decidable_of_iff _ sound_iff.symm

theorem exists_fails_of_not_sound (h : ¬ Sound t) : ∃ e, Fails t e := by
  rcases obstacle?_cases t with ⟨⟨defect, hdefect⟩, -⟩ | ⟨g, d, o, hg, hd, ho⟩
  · exact ⟨_, .unreadable hdefect⟩
  · cases o with
    | none => exact absurd (sound_iff.2 ho) h
    | some obstacle => exact ⟨_, .obstructed hg hd⟩

end Texts

/-! ### Pieces one after the other -/

theorem readText_eq_ok_iff {t : List Char} {g : Grammar} :
    readText t = .ok g ↔ Grammar.parse t = .ok g := by
  unfold readText
  cases Grammar.parse t <;> simp [Except.mapError]

section Pieces

variable {α : Type} {read : α → Except (ExtractionError × List Record) Grammar} {before : List α}
  {piece : α}

theorem Assembly.addEach_cons {g : Grammar} {d : Document} (a : Assembly) (h : read piece = .ok g)
    (hg : Contributes g d none) (after : List α) :
    a.addEach read (piece :: after) = Assembly.addEach read (a.followedBy [d]) after := by
  rw [addEach]
  simp only [h, add_of_contributes a hg]

/-- Pieces that normalize are added, and what comes after them is added to the result. -/
theorem Assembly.addEach_append {gs : List Grammar} (a : Assembly)
    (h : List.Forall₂ (fun piece g => read piece = .ok g ∧ g.Normalizes) before gs)
    (after : List α) :
    a.addEach read (before ++ after) = Assembly.addEach read (a.extend gs).1 after := by
  induction h generalizing a with
  | nil => rfl
  | @cons piece g before gs hpiece _ ih =>
    obtain ⟨hread, hn⟩ := hpiece
    obtain ⟨d, hd⟩ := normalizes_iff.1 hn
    rw [List.cons_append, addEach_cons a hread hd, extend, add_of_contributes a hd]
    exact ih _

theorem fst_assemble (read : α → Except (ExtractionError × List Record) Grammar)
    (pieces : List α) :
    (assemble read pieces).1 =
      match (Assembly.addEach read {} pieces).2.1 with
      | some error => .error error
      | none => .ok (Assembly.addEach read {} pieces).1 := by
  unfold assemble
  rcases Assembly.addEach read {} pieces with ⟨a, _ | error, records⟩ <;> rfl

/-- Two ways of reading that differ in their reports only come to the same assembly and the same error. -/
theorem Assembly.addEach_map {β : Type}
    {read' : β → Except (ExtractionError × List Record) Grammar} {f : α → β}
    (h : ∀ piece, (read piece).mapError Prod.fst = (read' (f piece)).mapError Prod.fst)
    (a : Assembly) (pieces : List α) :
    (a.addEach read pieces).1 = (a.addEach read' (pieces.map f)).1 ∧
      (a.addEach read pieces).2.1 = (a.addEach read' (pieces.map f)).2.1 := by
  induction pieces generalizing a with
  | nil => exact ⟨rfl, rfl⟩
  | cons piece r ih =>
    have hpiece := h piece
    rw [List.map_cons, addEach, addEach]
    cases hread : read piece with
    | error fault =>
      rw [hread] at hpiece
      obtain ⟨fault', hread', hfault⟩ := mapError_eq_error_iff.1 hpiece.symm
      rw [hread']
      exact ⟨rfl, congrArg some hfault.symm⟩
    | ok g =>
      rw [hread] at hpiece
      obtain hread' : read' (f piece) = .ok g := by
        cases hf : read' (f piece) <;> simp_all [Except.mapError]
      rw [hread']
      dsimp only
      rcases a.add g with ⟨a', _ | obstacle⟩
      · exact ih a'
      · exact ⟨rfl, rfl⟩

theorem fst_assemble_map {β : Type}
    {read' : β → Except (ExtractionError × List Record) Grammar} {f : α → β}
    (h : ∀ piece, (read piece).mapError Prod.fst = (read' (f piece)).mapError Prod.fst)
    (pieces : List α) : (assemble read pieces).1 = (assemble read' (pieces.map f)).1 := by
  obtain ⟨hassembly, herror⟩ := Assembly.addEach_map h {} pieces
  rw [fst_assemble, fst_assemble, hassembly, herror]

end Pieces

variable {texts : List (List Char)} {e : ExtractionError}

/-- A text that fails is the end. -/
theorem Assembly.addTexts_of_fails {t : List Char} (a : Assembly) (h : Fails t e)
    (after : List (List Char)) : (a.addTexts (t :: after)).2.1 = some e := by
  rw [addTexts, addEach]
  cases h with
  | unreadable h =>
    rw [readText, h]
    rfl
  | obstructed h hg =>
    rw [readText_eq_ok_iff.2 h]
    simp only [add_of_contributes a hg]

/-- What texts yield is what comes of assembling them. -/
theorem assembleTexts_of_yields {r : Except ExtractionError Document} (h : Yields texts r) :
    (assembleTexts texts).1 = r := by
  rw [assembleTexts, fst_assemble]
  cases h with
  | @document gs d hall hd =>
    have hpieces : List.Forall₂ (fun t g => readText t = .ok g ∧ g.Normalizes) texts gs := by
      simpa only [readText_eq_ok_iff] using hall
    have happend := Assembly.addEach_append {} hpieces []
    rw [List.append_nil] at happend
    rw [happend, hd]
    rfl
  | @failure before after t e hsplit hbefore ht =>
    obtain ⟨gs, hgs⟩ := exists_forall₂.2 hbefore
    have hpieces : List.Forall₂ (fun t g => readText t = .ok g ∧ g.Normalizes) before gs := by
      simpa only [readText_eq_ok_iff] using hgs
    have hfails := Assembly.addTexts_of_fails (Assembly.extend {} gs).1 ht after
    rw [Assembly.addTexts] at hfails
    rw [hsplit, Assembly.addEach_append {} hpieces, hfails]

/-! ### Extractions -/

variable {s : Selection} {html : List Char}

/-- The outcome of an extraction is that of assembling the texts that are selected. -/
theorem fst_extractDocument (h : selectedTexts s html = .ok texts) :
    (extractDocument s html).1 = (assembleTexts texts).1 := by
  have hread : ∀ f : Fragment,
      (readFragment f).mapError Prod.fst = (readText f.text).mapError Prod.fst := by
    intro f
    unfold readFragment readText
    cases Grammar.parse f.text <;> rfl
  unfold selectedTexts at h
  unfold extractDocument
  cases hf : Markup.extractFragments html with
  | error refusal => simp [hf, Except.map] at h
  | ok fragments =>
    obtain rfl : (s.select fragments).1.map (·.text) = texts := by simpa [hf, Except.map] using h
    exact fst_assemble_map hread (s.select fragments).1

theorem extractDocument_of_yields {r : Except ExtractionError Document}
    (h : selectedTexts s html = .ok texts) (hr : Yields texts r) : (extractDocument s html).1 = r :=
  (fst_extractDocument h).trans (assembleTexts_of_yields hr)

/-- Any texts yield a document or a failure. -/
theorem exists_yields (texts : List (List Char)) : ∃ r, Yields texts r := by
  rcases forall_or_exists_first Sound texts with hall | ⟨before, t, after, rfl, hbefore, ht⟩
  · obtain ⟨gs, hgs⟩ := exists_forall₂.2 hall
    have hn : ∀ g ∈ gs, g.Normalizes := by
      intro g hg
      obtain ⟨t, -, h⟩ := exists_forall₂.1 ⟨_, hgs.flip⟩ g hg
      exact h
    exact ⟨_, .document hgs (Prod.ext rfl (Assembly.extend_of_normalizes {} hn))⟩
  · obtain ⟨e, he⟩ := exists_fails_of_not_sound ht
    exact ⟨_, .failure rfl hbefore he⟩

/-- A failure that is no defect of the notation is an alternative without a normalized form, unless a
terminal of a list holds a number of too many digits. -/
theorem Fails.cases {t : List Char} (h : Fails t e)
    (hdigits : ∀ g, Grammar.parse t = .ok g → ∀ p ∈ g.oneOfs, ∀ excess, ¬ Exceeds p excess) :
    (∃ defect, e = .unreadable t defect) ∨
      ∃ failure report, e = .obstructed (.inexpressible failure report) := by
  cases h with
  | unreadable _ => exact .inl ⟨_, rfl⟩
  | obstructed hparse hg =>
    cases hg with
    | offended _ _ _ => exact .inr ⟨_, _, rfl⟩
    | exceeded hsort _ _ hp =>
      have hmem := hsort.eq.2 ▸ hdigits _ hparse
      exact absurd hp (hmem _ (by simp) _)

/-- What is extracted is what the selected texts yield. So it is the same for whatever document with the
same selected texts, and after a text that fails it does not matter which texts come. -/
theorem extractDocument_yields (h : selectedTexts s html = .ok texts) :
    (∀ r, Yields texts r ↔ (extractDocument s html).1 = r) ∧
      (∀ s' html', selectedTexts s' html' = .ok texts →
        (extractDocument s' html').1 = (extractDocument s html).1) ∧
      (∀ before t after after' e s' html', texts = before ++ t :: after →
        (∀ u ∈ before, Sound u) → Fails t e →
          selectedTexts s' html' = .ok (before ++ t :: after') →
            (extractDocument s html).1 = .error e ∧ (extractDocument s' html').1 = .error e) ∧
      ((∀ t ∈ texts, ∀ g, Grammar.parse t = .ok g → ∀ p ∈ g.oneOfs, ∀ excess, ¬ Exceeds p excess) →
        ∀ e, (extractDocument s html).1 = .error e →
          (∃ t ∈ texts, ∃ defect, e = .unreadable t defect) ∨
            ∃ failure report, e = .obstructed (.inexpressible failure report)) := by
  obtain ⟨r, hr⟩ := exists_yields texts
  have hresult := extractDocument_of_yields h hr
  refine ⟨fun r' => ⟨extractDocument_of_yields h, ?_⟩, fun s' html' h' => ?_, ?_, ?_⟩
  · rintro rfl
    exact hresult ▸ hr
  · rw [extractDocument_of_yields h' hr, hresult]
  · rintro before t after after' e s' html' rfl hbefore ht h'
    exact ⟨extractDocument_of_yields h (.failure rfl hbefore ht),
      extractDocument_of_yields h' (.failure rfl hbefore ht)⟩
  · intro hdigits e he
    obtain rfl : r = .error e := hresult.symm.trans he
    cases hr with
    | @failure before after t _ hsplit _ ht =>
      have ht' : t ∈ texts := by simp [hsplit]
      rcases ht.cases (hdigits t ht') with ⟨defect, rfl⟩ | hinexpressible
      · exact .inl ⟨t, ht', defect, rfl⟩
      · exact .inr hinexpressible

/-! ### Two documents with a text that does not normalize -/

/-- A selection that starts in the section of the samples below. -/
def sampleSelection : Selection := { startSection := ['s'] }

/-- A fragment in words after one that normalizes; the notation before them is not selected. -/
def proseSample : List Char :=
  ("<emu-grammar>%</emu-grammar><a id=s><b><emu-grammar type=definition>A: B</b>" ++
    "<b><emu-grammar type=definition>C: >x").toList

/-- The same two fragments and one that cannot be read. -/
def brokenSample : List Char :=
  ("<a id=s><b><emu-grammar type=definition>A: B</b><b><emu-grammar type=definition>C: >x</b>" ++
    "<b><emu-grammar type=definition>%").toList

def proseTexts : List (List Char) := ["A: B".toList, "C: >x".toList]

theorem extractDocument_yields_prose :
    selectedTexts sampleSelection proseSample = .ok proseTexts ∧
      selectedTexts sampleSelection brokenSample = .ok (proseTexts ++ [['%']]) ∧
      Sound "A: B".toList ∧ ∃ e, Fails "C: >x".toList e ∧
        (extractDocument sampleSelection proseSample).1 = .error e ∧
        (extractDocument sampleSelection brokenSample).1 = .error e := by
  have htexts : selectedTexts sampleSelection proseSample = .ok proseTexts := by decide +kernel
  have hbroken : selectedTexts sampleSelection brokenSample = .ok (proseTexts ++ [['%']]) := by
    decide +kernel
  have hsound : Sound "A: B".toList := by decide +kernel
  obtain ⟨e, he⟩ : ∃ e, Fails "C: >x".toList e := exists_fails_of_not_sound (by decide +kernel)
  obtain ⟨-, -, hfailing, -⟩ := extractDocument_yields htexts
  obtain ⟨h, h'⟩ := hfailing ["A: B".toList] "C: >x".toList [] [['%']] e sampleSelection brokenSample
    rfl (List.forall_mem_singleton.2 hsound) he hbroken
  exact ⟨htexts, hbroken, hsound, e, he, h, h'⟩

end SpecGrammar
