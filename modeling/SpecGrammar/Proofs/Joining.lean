import SpecGrammar.Document.Json
import SpecGrammar.Proofs.Extraction
import SpecGrammar.Proofs.Notation.Accounting
import SpecGrammar.Proofs.Text.Line

/-!
# Texts joined by a line feed

* `Flush`: a text without margin, whose first line that counts begins at column zero;
* `significantLines_join`: the lines that count of two such texts are those of the joined one;
* `blocks_append`: no block reaches over a line at column zero;
* `Contributes.append`: what two pieces contribute is contributed by one with the elements of both;
* `parse_joined`: the joined text is read just if both texts are, with the same elements and, if all
  productions normalize, the same document.
-/

namespace SpecGrammar

open Notation

/-- A text without tabs in which only line feeds end lines, and whose first line that is neither blank nor
a comment is there and begins at column zero. -/
structure Flush (text : List Char) : Prop where
  plain : Text.Plain text
  first : ((Text.rows text).filterMap Line.ofText?).head?.map (·.indented) = some false

instance (text : List Char) : Decidable (Flush text) :=
  decidable_of_iff (Text.Plain text ∧
    ((Text.rows text).filterMap Line.ofText?).head?.map (·.indented) = some false)
    ⟨fun h => ⟨h.1, h.2⟩, fun h => ⟨h.plain, h.first⟩⟩

variable {t t₁ t₂ : List Char}

/-! ### Lines -/

/-- A row of spaces does not count. -/
theorem ofText?_of_not_inked {row : List Char} (h : Text.isInked row = false) :
    Line.ofText? row = none := by
  simp [Line.ofText?, Text.trim_of_blank (Text.blank_of_not_inked h)]

/-- A row that counts and begins at column zero holds something and does not begin with a space. -/
theorem flush_of_ofText? {row : List Char} {line : Line} (h : Line.ofText? row = some line)
    (hline : line.indented = false) : Text.isInked row = true ∧ Text.indentation row = 0 := by
  cases hrow : Text.isInked row with
  | false => exact absurd ((ofText?_of_not_inked hrow).symm.trans h) (by simp)
  | true =>
    refine ⟨rfl, ?_⟩
    cases row with
    | nil => rfl
    | cons c r =>
      have hc : Text.isBlank c = false := by
        simp only [Line.ofText?] at h
        split at h
        · exact absurd h (by simp)
        · obtain rfl := Option.some.inj h
          simpa using hline
      have hspace : c ≠ ' ' := by
        rintro rfl
        exact absurd hc (by decide)
      simp [Text.indentation, hspace]

theorem Flush.margin_eq_zero (h : Flush t) : Text.margin (Text.rows t) = 0 := by
  obtain ⟨line, hhead, hline⟩ := Option.map_eq_some_iff.1 h.first
  obtain ⟨row, hrow, hof⟩ := List.mem_filterMap.1 (List.mem_of_mem_head? hhead)
  obtain ⟨hinked, hflush⟩ := flush_of_ofText? hof hline
  exact Text.margin_eq_zero hrow hinked hflush

theorem Flush.significantLines_eq (h : Flush t) :
    significantLines t = (Text.rows t).filterMap Line.ofText? :=
  Text.filterMap_flushLines h.plain h.margin_eq_zero fun _ => ofText?_of_not_inked

theorem Flush.join (h₁ : Flush t₁) (h₂ : Flush t₂) : Flush (t₁ ++ '\n' :: t₂) where
  plain := h₁.plain.join h₂.plain
  first := by
    obtain ⟨line, hhead, hline⟩ := Option.map_eq_some_iff.1 h₁.first
    rw [Text.rows_join, List.filterMap_append, List.head?_append, hhead]
    exact congrArg some hline

/-- The lines that count of the joined text are those of the first and then those of the second. -/
theorem significantLines_join (h₁ : Flush t₁) (h₂ : Flush t₂) :
    significantLines (t₁ ++ '\n' :: t₂) = significantLines t₁ ++ significantLines t₂ := by
  rw [(h₁.join h₂).significantLines_eq, h₁.significantLines_eq, h₂.significantLines_eq,
    Text.rows_join, List.filterMap_append]

/-! ### Elements -/

theorem Flush.fst_blocks (h : Flush t) : (blocks (significantLines t)).1 = [] := by
  rw [Notation.fst_blocks, h.significantLines_eq]
  have hfirst := h.first
  cases hlines : (Text.rows t).filterMap Line.ofText? with
  | nil => rfl
  | cons line lines =>
    rw [hlines] at hfirst
    have hline : line.indented = false := by simpa using hfirst
    simp [hline]

/-- A line at column zero ends the block before it, so the blocks of lines that begin with one come after
those of any others. -/
theorem blocks_append {lines lines' : List Line} (h : (blocks lines').1 = []) :
    blocks (lines ++ lines') = ((blocks lines).1, (blocks lines).2 ++ (blocks lines').2) := by
  induction lines with
  | nil => exact Prod.ext h rfl
  | cons line lines ih =>
    rw [List.cons_append, blocks, blocks, ih]
    dsimp only
    split <;> rfl

/-- The elements of the joined text are those of the first and then those of the second. -/
theorem parse_join_iff (h₁ : Flush t₁) (h₂ : Flush t₂) {g : Grammar} :
    Grammar.parse (t₁ ++ '\n' :: t₂) = .ok g ↔
      ∃ g₁ g₂, Grammar.parse t₁ = .ok g₁ ∧ Grammar.parse t₂ = .ok g₂ ∧
        g = ⟨t₁ ++ '\n' :: t₂, g₁.elements ++ g₂.elements⟩ := by
  have hblocks : blocks (significantLines (t₁ ++ '\n' :: t₂)) =
      ([], (blocks (significantLines t₁)).2 ++ (blocks (significantLines t₂)).2) := by
    rw [significantLines_join h₁ h₂, blocks_append h₂.fst_blocks, h₁.fst_blocks]
  simp only [Grammar.parse_eq_ok_iff, parseElements_eq_ok_iff_blocks, hblocks, h₁.fst_blocks,
    h₂.fst_blocks, true_and, mapM_append_eq_ok_iff]
  constructor
  · rintro ⟨htext, es₁, es₂, hes₁, hes₂, hes⟩
    refine ⟨⟨t₁, es₁⟩, ⟨t₂, es₂⟩, ⟨rfl, hes₁⟩, ⟨rfl, hes₂⟩, ?_⟩
    cases g
    simp_all
  · rintro ⟨g₁, g₂, ⟨-, hg₁⟩, ⟨-, hg₂⟩, rfl⟩
    exact ⟨rfl, _, _, hg₁, hg₂, rfl⟩

/-! ### The document -/

theorem Sorts.append {es es' : List Element} {ps ps' qs qs' : List Production} (h : Sorts es ps qs)
    (h' : Sorts es' ps' qs') : Sorts (es ++ es') (ps ++ ps') (qs ++ qs') := by
  induction h with
  | nil => exact h'
  | directive _ ih => exact .directive ih
  | absent hp _ ih => exact .absent hp ih
  | alternatives hp _ ih => exact .alternatives hp ih
  | oneOf hp _ ih => exact .oneOf hp ih

/-- One piece with the elements of two contributes what both contribute, if neither meets an obstacle. -/
theorem Contributes.append {g₁ g₂ : Grammar} {d₁ d₂ : Document} (h₁ : Contributes g₁ d₁ none)
    (h₂ : Contributes g₂ d₂ none) (text : List Char) :
    Contributes ⟨text, g₁.elements ++ g₂.elements⟩ (d₁.followedBy [d₂]) none := by
  cases h₁ with
  | complete hg₁ hs₁ ho₁ =>
    cases h₂ with
    | complete hg₂ hs₂ ho₂ =>
      simpa [Document.followedBy] using
        Contributes.complete (g := ⟨text, g₁.elements ++ g₂.elements⟩) (hg₁.append hg₂)
          (List.rel_append hs₁ hs₂) (List.rel_append ho₁ ho₂)

theorem normalizes_append {g₁ g₂ : Grammar} {text : List Char} :
    Grammar.Normalizes ⟨text, g₁.elements ++ g₂.elements⟩ ↔ g₁.Normalizes ∧ g₂.Normalizes := by
  simp only [Grammar.Normalizes, Grammar.productions, List.filterMap_append, List.forall_mem_append]

theorem addTexts_cons {g : Grammar} {d : Document} (a : Assembly) (h : Grammar.parse t = .ok g)
    (hg : Contributes g d none) (texts : List (List Char)) :
    a.addTexts (t :: texts) = Assembly.addTexts (a.followedBy [d]) texts :=
  a.addEach_cons (readText_eq_ok_iff.2 h) hg texts

theorem sound_join_iff (h₁ : Flush t₁) (h₂ : Flush t₂) :
    Sound (t₁ ++ '\n' :: t₂) ↔ Sound t₁ ∧ Sound t₂ := by
  constructor
  · rintro ⟨g, hg, hn⟩
    obtain ⟨g₁, g₂, hg₁, hg₂, rfl⟩ := (parse_join_iff h₁ h₂).1 hg
    obtain ⟨hn₁, hn₂⟩ := normalizes_append.1 hn
    exact ⟨⟨g₁, hg₁, hn₁⟩, g₂, hg₂, hn₂⟩
  · rintro ⟨⟨g₁, hg₁, hn₁⟩, g₂, hg₂, hn₂⟩
    exact ⟨_, (parse_join_iff h₁ h₂).2 ⟨g₁, g₂, hg₁, hg₂, rfl⟩, normalizes_append.2 ⟨hn₁, hn₂⟩⟩

/-- The joined text adds to an assembly what the two texts add one after the other. -/
theorem exists_addTexts_join (h₁ : Flush t₁) (h₂ : Flush t₂) (hs₁ : Sound t₁) (hs₂ : Sound t₂)
    (a : Assembly) :
    ∃ a', a.addTexts [t₁ ++ '\n' :: t₂] = (a', none, []) ∧ a.addTexts [t₁, t₂] = (a', none, []) := by
  obtain ⟨g₁, hg₁, hn₁⟩ := hs₁
  obtain ⟨g₂, hg₂, hn₂⟩ := hs₂
  obtain ⟨d₁, hd₁⟩ := Assembly.normalizes_iff.1 hn₁
  obtain ⟨d₂, hd₂⟩ := Assembly.normalizes_iff.1 hn₂
  have hg := (parse_join_iff h₁ h₂).2 ⟨g₁, g₂, hg₁, hg₂, rfl⟩
  have hjoined := addTexts_cons a hg (hd₁.append hd₂ _) []
  have htwo : a.addTexts [t₁, t₂] = ((a.followedBy [d₁]).followedBy [d₂], none, []) := by
    rw [addTexts_cons a hg₁ hd₁, addTexts_cons _ hg₂ hd₂]
    rfl
  refine ⟨_, hjoined, htwo.trans ?_⟩
  simp [Document.followedBy]

/-- The joined text is read just if both texts are, and its elements are theirs. If moreover all
productions normalize, it adds the same to an assembly as the two texts one after the other, and makes the
same document. -/
theorem parse_joined (h₁ : Flush t₁) (h₂ : Flush t₂) :
    ((∃ g, Grammar.parse (t₁ ++ '\n' :: t₂) = .ok g) ↔
        (∃ g₁, Grammar.parse t₁ = .ok g₁) ∧ ∃ g₂, Grammar.parse t₂ = .ok g₂) ∧
      (∀ g g₁ g₂, Grammar.parse (t₁ ++ '\n' :: t₂) = .ok g → Grammar.parse t₁ = .ok g₁ →
        Grammar.parse t₂ = .ok g₂ → g.elements = g₁.elements ++ g₂.elements) ∧
      (Sound (t₁ ++ '\n' :: t₂) ↔ Sound t₁ ∧ Sound t₂) ∧
      (Sound (t₁ ++ '\n' :: t₂) →
        (∀ a : Assembly, ∃ a', a.addTexts [t₁ ++ '\n' :: t₂] = (a', none, []) ∧
          a.addTexts [t₁, t₂] = (a', none, [])) ∧
        ∃ d, ∀ texts ∈ [[t₁ ++ '\n' :: t₂], [t₁, t₂]],
          (assembleTexts texts).1 = .ok d ∧
            (assembleTexts texts).1.map Document.write = .ok d.write) := by
  refine ⟨⟨?_, ?_⟩, ?_, sound_join_iff h₁ h₂, fun hsound => ?_⟩
  · rintro ⟨g, hg⟩
    obtain ⟨g₁, g₂, hg₁, hg₂, -⟩ := (parse_join_iff h₁ h₂).1 hg
    exact ⟨⟨g₁, hg₁⟩, g₂, hg₂⟩
  · rintro ⟨⟨g₁, hg₁⟩, g₂, hg₂⟩
    exact ⟨_, (parse_join_iff h₁ h₂).2 ⟨g₁, g₂, hg₁, hg₂, rfl⟩⟩
  · intro g g₁ g₂ hg hg₁ hg₂
    have hjoined := (parse_join_iff h₁ h₂).2 ⟨g₁, g₂, hg₁, hg₂, rfl⟩
    obtain rfl := Except.ok.inj (hg.symm.trans hjoined)
    rfl
  · obtain ⟨hs₁, hs₂⟩ := (sound_join_iff h₁ h₂).1 hsound
    have hadd := exists_addTexts_join h₁ h₂ hs₁ hs₂
    refine ⟨hadd, ?_⟩
    obtain ⟨d, hjoined, htwo⟩ := hadd {}
    refine ⟨d, fun texts htexts => ?_⟩
    have hall : Assembly.addTexts {} texts = (d, none, []) := by
      rcases List.mem_pair.1 htexts with rfl | rfl
      · exact hjoined
      · exact htwo
    have hdocument : (assembleTexts texts).1 = .ok d := by
      rw [Assembly.addTexts] at hall
      rw [assembleTexts, fst_assemble, hall]
    exact ⟨hdocument, by rw [hdocument]; rfl⟩

/-! ### A production closed by the header of the next -/

/-- A production whose alternatives end the text, with a comment before it. -/
def openSample : List Char := "  // a\nA :\n  B\n    `c`".toList

/-- A list of terminals, with a blank line and a comment around it. -/
def closingSample : List Char := " \nC :: one of\n  `x` `&lt;`\n// d".toList

theorem parse_joined_samples :
    Flush openSample ∧ Flush closingSample ∧ Sound openSample ∧ Sound closingSample ∧
      ∃ d, (assembleTexts [openSample ++ '\n' :: closingSample]).1 = .ok d ∧
        (assembleTexts [openSample, closingSample]).1 = .ok d := by
  have hopen : Flush openSample := by decide +kernel
  have hclosing : Flush closingSample := by decide +kernel
  have hsound : Sound openSample ∧ Sound closingSample := by decide +kernel
  obtain ⟨-, -, hsounds, hdocument⟩ := parse_joined hopen hclosing
  obtain ⟨-, d, hd⟩ := hdocument (hsounds.2 hsound)
  exact ⟨hopen, hclosing, hsound.1, hsound.2, d, (hd _ (by simp)).1, (hd _ (by simp)).1⟩

end SpecGrammar
