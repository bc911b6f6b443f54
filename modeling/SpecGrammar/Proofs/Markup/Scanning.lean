import SpecGrammar.Proofs.Markup.Tag

/-!
# Scanning the documents that are written

What a piece of a document does to the tree under construction, whatever follows it. Runs of text are
read together with what follows them, so it is not the tokens of the piece that are told but their
effect.

* `Scans`: a text every piece of which is complete, with its tokens;
* `HasEffect`: what a text does to the tree, with the laws for one text after another;
* `hasEffect_escaped`, `hasEffect_writeStart`, `hasEffect_writeEnd`: escaped texts and tags;
* `hasEffect_of_showsAll`: a document builds its contents one after the other.
-/

namespace SpecGrammar.Markup

open Reference (escape escapeCharacter)

variable {s t rest : List Char} {c : Char} {tokens : List Token} {f g : Builder → Builder}

/-! ### Complete pieces -/

/-- Reading a text in complete pieces gives these tokens. -/
inductive Scans : List Char → List Token → Prop
  | nil : Scans [] []
  | cons {c : Char} {r rest : List Char} {first more : List Token}
      (hstep : step false c r = .tokens first rest) (hshort : rest.length ≤ r.length)
      (hmore : Scans rest more) : Scans (c :: r) (first ++ more)

theorem Scans.tokensFrom_eq (h : Scans s tokens) (fuel : Nat) (hfuel : s.length < fuel) :
    tokensFrom fuel false s = .ok tokens := by
  induction h generalizing fuel with
  | nil =>
    obtain ⟨fuel, rfl⟩ := Nat.exists_eq_add_of_lt hfuel
    rfl
  | cons hstep hshort _ ih =>
    obtain ⟨fuel, rfl⟩ : ∃ n, fuel = n + 1 := ⟨fuel - 1, by omega⟩
    rw [List.length_cons] at hfuel
    rw [tokensFrom, hstep]
    simp only
    rw [ih fuel (by omega)]
    rfl

theorem Scans.tokens_eq (h : Scans s tokens) : Markup.tokens s = .ok tokens :=
  h.tokensFrom_eq _ (by omega)

/-! ### Effects -/

/-- What a text does to a tree under construction before the text that follows is added to it. -/
def HasEffect (s : List Char) (f : Builder → Builder) : Prop :=
  ∀ rest tokens, Scans rest tokens →
    ∃ tokens', Scans (s ++ rest) tokens' ∧
      ∀ b, tokens'.foldl Builder.add b = tokens.foldl Builder.add (f b)

theorem HasEffect.nil : HasEffect [] id := fun _ tokens h => ⟨tokens, h, fun _ => rfl⟩

theorem HasEffect.append (hs : HasEffect s f) (ht : HasEffect t g) :
    HasEffect (s ++ t) (g ∘ f) := by
  intro rest tokens h
  obtain ⟨tokens₁, h₁, heq₁⟩ := ht rest tokens h
  obtain ⟨tokens₂, h₂, heq₂⟩ := hs (t ++ rest) tokens₁ h₁
  rw [← List.append_assoc] at h₂
  exact ⟨tokens₂, h₂, fun b => (heq₂ b).trans (heq₁ (f b))⟩

/-- A piece that is read by itself. -/
theorem HasEffect.of_step (first : List Token)
    (hstep : ∀ rest, step false c (s ++ rest) = .tokens first rest)
    (heffect : ∀ b, first.foldl Builder.add b = f b) : HasEffect (c :: s) f := by
  intro rest tokens h
  refine ⟨first ++ tokens, .cons (hstep rest) (by simp) h, fun b => ?_⟩
  rw [List.foldl_append, heffect]

/-- What is built by the text of a whole document. -/
theorem HasEffect.nodes_eq (h : HasEffect s f) :
    ∃ tokens, Markup.tokens s = .ok tokens ∧ nodes tokens = (f {}).finish := by
  obtain ⟨tokens, htokens, heq⟩ := h [] [] .nil
  rw [List.append_nil] at htokens
  exact ⟨tokens, htokens.tokens_eq, congrArg Builder.finish (heq {})⟩

/-! ### Texts -/

/-- Adds the characters of a text to the run of text. -/
def Builder.addEach (b : Builder) (s : List Char) : Builder :=
  s.foldl (fun b c => b.addText [c]) b

theorem Builder.addText_addText (b : Builder) (s t : List Char) :
    (b.addText s).addText t = b.addText (s ++ t) := by
  simp [Builder.addText]

theorem step_plain (hc : isPlain c = true) (r : List Char) :
    step false c r = .tokens [.text (c :: r.takeWhile isPlain)] (r.dropWhile isPlain) := by
  have hlt : c ≠ '<' := by
    rintro rfl
    exact Bool.noConfusion hc
  have hamp : c ≠ '&' := by
    rintro rfl
    exact Bool.noConfusion hc
  simp [step, hlt, hamp]

/-- A character that is no markup joins the run of text it stands in. -/
theorem hasEffect_plain (hc : isPlain c = true) : HasEffect [c] (·.addText [c]) := by
  intro rest tokens h
  have hshort : ∀ r : List Char, (r.dropWhile isPlain).length ≤ r.length :=
    fun r => (List.dropWhile_suffix _).length_le
  cases h with
  | nil => exact ⟨_, .cons (step_plain hc []) (hshort []) .nil, fun b => rfl⟩
  | @cons d r rest first more hd hd' hmore =>
    have hscan : ∀ more, Scans ((d :: r).dropWhile isPlain) more →
        Scans (c :: d :: r) (.text (c :: (d :: r).takeWhile isPlain) :: more) :=
      fun more => .cons (step_plain hc (d :: r)) (hshort (d :: r))
    cases hplain : isPlain d with
    | true =>
      -- the run that was read from the second character on begins with the first now
      obtain ⟨rfl, rfl⟩ := Step.tokens.inj ((step_plain hplain r).symm.trans hd)
      rw [List.takeWhile_cons_of_pos hplain, List.dropWhile_cons_of_pos hplain] at hscan
      refine ⟨_, hscan more hmore, fun b => ?_⟩
      simp [Builder.add, Builder.addText_addText]
    | false =>
      rw [List.takeWhile_cons_of_neg (by simp [hplain]),
        List.dropWhile_cons_of_neg (by simp [hplain])] at hscan
      exact ⟨_, hscan _ (.cons hd hd' hmore), fun b => rfl⟩

/-- A reference by name, closed with a semicolon, is read as the text of its name. -/
theorem stepAmpersand_name {name text : List Char} (hstart : name.head?.any Char.isAlpha = true)
    (hname : ∀ c ∈ name, isReferenceCharacter c = true)
    (htext : Reference.named? (name ++ [';']) = some text) (rest : List Char) :
    stepAmpersand false (name ++ ';' :: rest) = .tokens [.text text] rest := by
  cases name with
  | nil => simp at hstart
  | cons c r =>
    have hhash : c ≠ '#' := by
      rintro rfl
      exact absurd (hname '#' (by simp)) (by decide)
    have htake : (c :: r ++ ';' :: rest).takeWhile isReferenceCharacter = c :: r :=
      Text.takeWhile_append_of_head hname (by simp [isReferenceCharacter])
    have hdrop : (c :: r ++ ';' :: rest).drop (c :: r).length = ';' :: rest := List.drop_left
    have hread : referenceName? (c :: r ++ ';' :: rest) = some (c :: r, ';' :: rest) := by
      have hhead : (c :: r ++ ';' :: rest).head?.any Char.isAlpha = true := hstart
      simp only [referenceName?, hhead, if_true, htake, hdrop]
    unfold stepAmpersand
    split
    · next heq => cases heq
    · next heq => exact absurd (List.cons.inj heq).1 hhash
    · simp only [hread, namedText, htext, dropSemicolon, Option.getD_some]

/-- The reference that the apostrophe is written as. -/
theorem stepAmpersand_apostrophe (rest : List Char) :
    stepAmpersand false ('#' :: 'x' :: '2' :: '7' :: ';' :: rest) = .tokens [.text ['\'']] rest := by
  have hdigits : referenceDigits? ('x' :: '2' :: '7' :: ';' :: rest) =
      some (16, ['2', '7'], ';' :: rest) := by
    simp [referenceDigits?, Reference.isDigit, Reference.digitValue?]
  rw [stepAmpersand, hdigits]
  rfl

theorem hasEffect_escapeCharacter (c : Char) :
    HasEffect (escapeCharacter c) (·.addText [c]) := by
  rcases Reference.escapeCharacter_cases c with ⟨rfl, hc⟩ | ⟨name, hmem, hc⟩ | ⟨-, hne, hc⟩
  · rw [hc]
    exact .of_step (s := "#x27;".toList) _ stepAmpersand_apostrophe fun b => rfl
  · rw [hc]
    refine .of_step [.text [c]] (fun rest => ?_) fun b => rfl
    have key : ∀ e ∈ Reference.escapeNames, e.2.toList.head?.any Char.isAlpha = true ∧
        e.2.toList.all isReferenceCharacter = true := by
      decide
    obtain ⟨hstart, hname⟩ := key _ hmem
    rw [List.append_assoc]
    exact stepAmpersand_name hstart (List.all_eq_true.1 hname)
      (Reference.named?_of_mem_escapeNames hmem) rest
  · rw [hc]
    have hlt : c ≠ '<' := hne ('<', "lt") (by decide)
    have hamp : c ≠ '&' := hne ('&', "amp") (by decide)
    exact hasEffect_plain (by simp [isPlain, hlt, hamp])

theorem hasEffect_escaped {text markup : List Char} (h : Escaped text markup) :
    HasEffect markup (·.addEach text) := by
  induction h with
  | nil => exact .nil
  | plain hc _ ih => exact (hasEffect_plain hc).append ih
  | @reference c _ _ _ ih => exact (hasEffect_escapeCharacter c).append ih

/-! ### Tags -/

theorem stepBracket_of_startTag {name : Name} {found after : List Char}
    {attributes : List Attribute} {closed : Bool}
    (h : startTag (name.letters ++ after) = .tag found attributes closed rest) :
    stepBracket (name.letters ++ after) = openingTokens found attributes closed rest := by
  obtain ⟨c, r, hname, hlower, hc⟩ := name.exists_cons
  have halpha : c.isAlpha = true := isAlpha_of_isLower hlower
  rw [hname, List.cons_append] at h ⊢
  unfold stepBracket
  split
  · next heq => cases heq
  · next heq => exact absurd (List.cons.inj heq).1 (ne_of_isNameCharacter hc (by decide))
  · next heq => exact absurd (List.cons.inj heq).1 (ne_of_isNameCharacter hc (by decide))
  · next heq => exact absurd (List.cons.inj heq).1 (ne_of_isNameCharacter hc (by decide))
  · next heq =>
    obtain ⟨rfl, rfl⟩ := List.cons.inj heq
    simp only [halpha, if_true, h]

/-- The start tag of an element that has contents opens it. -/
theorem hasEffect_writeStart (name : Name) (attributes : Attributes)
    (hraw : name.letters ∉ rawElements) (hvoid : name.letters ∉ voidElements) :
    HasEffect (writeStart name attributes) (·.push name.letters attributes.read) := by
  refine .of_step [.opening name.letters attributes.read false] (fun rest => ?_)
    fun b => ?_
  · have hread : stepBracket (name.letters ++ (attributes.write ++ '>' :: rest)) = _ :=
      stepBracket_of_startTag (startTag_write name attributes rest)
    show stepBracket (name.letters ++ (attributes.write ++ ['>']) ++ rest) = _
    rw [List.append_assoc, List.append_assoc]
    refine hread.trans ?_
    simp [openingTokens, hraw]
  · simp [Builder.add, hvoid]

/-- An end tag ends the innermost element of its name. -/
theorem hasEffect_writeEnd (name : Name) :
    HasEffect (writeEnd name) (·.closeTag name.letters) := by
  refine .of_step [.closing name.letters] (fun rest => ?_) fun b => rfl
  have hend : endTag? (name.letters ++ (['>'] ++ rest)) = some ([.closing name.letters], rest) := by
    show endTag? (name.letters ++ '>' :: rest) = _
    rw [endTag?, plainEndTag?_write]
  have hbracket : step false '<' ('/' :: (name.letters ++ (['>'] ++ rest))) =
      .tokens [.closing name.letters] rest := by
    rw [step, if_pos (by decide), stepBracket, hend]
  rw [← hbracket, ← List.append_assoc]
  rfl

/-! ### Documents -/

mutual

/-- What a part of a document does to the tree: its tags open and end an element, and its text is
added to the run of text. -/
def Content.build : Content → Builder → Builder
  | .text text, b => b.addEach text
  | .grammar attributes text, b =>
    ((b.push grammarElement attributes.read).addEach text.text).closeTag grammarElement
  | .element name attributes children, b =>
    (buildAll children (b.push name.letters attributes.read)).closeTag name.letters

def buildAll : List Content → Builder → Builder
  | [], b => b
  | content :: r, b => buildAll r (content.build b)

end

mutual

theorem hasEffect_of_shows {content : Content} {markup : List Char} (h : Shows content markup) :
    HasEffect markup content.build := by
  cases h with
  | text h => exact hasEffect_escaped h
  | @grammar attributes text markup h =>
    have hstart := hasEffect_writeStart grammarName attributes (by decide) (by decide)
    exact hstart.append ((hasEffect_escaped h).append (hasEffect_writeEnd grammarName))
  | @element name attributes children markup h =>
    have hstart := hasEffect_writeStart name.toName attributes name.not_mem_rawElements
      name.not_mem_voidElements
    exact hstart.append ((hasEffect_of_showsAll h).append (hasEffect_writeEnd name.toName))

theorem hasEffect_of_showsAll {contents : List Content} {markup : List Char}
    (h : ShowsAll contents markup) : HasEffect markup (buildAll contents) := by
  cases h with
  | nil => exact .nil
  | cons h hr => exact (hasEffect_of_shows h).append (hasEffect_of_showsAll hr)

end

end SpecGrammar.Markup
