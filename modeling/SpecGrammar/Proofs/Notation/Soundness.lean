import SpecGrammar.Proofs.Notation.Completeness

/-!
# Nothing is read that the notation does not allow

* `InOrder ws s`: the words stand in the text one after the other;
* `Faithful s a`: what is to hold of an alternative that is read from a text;
* `parseAlternative_eq_ok_iff`: an alternative that is not described in words is read from exactly the
  texts that are laid out as one of its derivations;
* `parseAlternative_sound`: every alternative that is read is faithful to its text.
-/

namespace SpecGrammar.Notation

variable {s r text : List Char} {t : Token} {ts us : List Token} {a : Alternative}

/-! ### Words in a text -/

/-- The words stand in the text in their order, each behind the end of the one before. -/
inductive InOrder : List (List Char) → List Char → Prop
  | nil (s : List Char) : InOrder [] s
  | cons {w r : List Char} {ws : List (List Char)} (a : List Char) (h : InOrder ws r) :
      InOrder (w :: ws) (a ++ w ++ r)

variable {w : List Char} {ws vs : List (List Char)}

theorem InOrder.prepend (a : List Char) (h : InOrder ws s) : InOrder ws (a ++ s) := by
  cases h with
  | nil => exact .nil _
  | @cons w r ws b h =>
    have : InOrder (w :: ws) (a ++ b ++ w ++ r) := .cons (a ++ b) h
    simpa only [List.append_assoc] using this

theorem InOrder.append (h : InOrder ws s) (h' : InOrder vs r) : InOrder (ws ++ vs) (s ++ r) := by
  induction h with
  | nil s => exact h'.prepend s
  | cons a _ ih =>
    rw [List.append_assoc]
    exact .cons a ih

theorem InOrder.single (a w b : List Char) : InOrder [w] (a ++ w ++ b) := .cons a (.nil b)

theorem InOrder.of_padded {pieces entries : List (List Char)}
    (h : List.Forall₂ Padded pieces entries) : InOrder entries (Text.joinWith [','] pieces) := by
  induction h with
  | nil => exact .nil _
  | @cons piece entry pieces entries hp hr ih =>
    obtain ⟨a, b, -, -, rfl⟩ := hp
    have hfirst := InOrder.single a entry b
    cases hr with
    | nil => exact hfirst
    | cons =>
      rw [Text.joinWith_cons (by simp), List.append_assoc]
      exact hfirst.append (ih.prepend [','])

/-- The words of a token stand in it in order. -/
theorem Lexeme.inOrder {kind : Kind} (h : Lexeme kind text) :
    InOrder (Token.words ⟨kind, text⟩) text := by
  cases h with
  | params h =>
    have hentries : Token.words ⟨.params, text⟩ = _ := parameters_of_lists h
    rw [hentries]
    obtain ⟨-, -, hpad⟩ := h
    have := (InOrder.of_padded hpad).append (.nil [']'])
    rw [List.append_nil] at this
    exact this.prepend ['[']
  | @namedCharacter _ name h =>
    have hword : Token.words ⟨.namedCharacter, text⟩ = [name] := by
      simp [Token.words, decode_character h]
    rw [hword]
    cases h with
    | plain => exact .single _ name _
    | reference => exact .single _ name _
  | nonterminal =>
    have := InOrder.single [] text []
    rwa [List.append_nil, List.nil_append] at this
  | prose => exact .nil _
  | @terminal text h =>
    have hword : Token.words ⟨.terminal, '`' :: text ++ ['`']⟩ = [text] := by simp [Token.words]
    rw [hword]
    exact .single ['`'] text ['`']
  | @label text h =>
    have := InOrder.single ['#'] text []
    rwa [List.append_nil] at this
  | operator => exact .nil _
  | word h => cases kind <;> first | exact .nil _ | simp [Kind.word?] at h

/-- The words of tokens stand in order in a text that is laid out as the tokens. -/
theorem Laid.inOrder (h : Laid ts s) (hl : Lexical ts) : InOrder (ts.flatMap Token.words) s := by
  induction h with
  | nil => exact .nil _
  | @cons g s t ts _ _ _ ih =>
    have hfirst := (hl t (by simp)).inOrder.prepend g
    exact hfirst.append (ih fun u hu => hl u (by simp [hu]))

/-! ### Alternatives in words -/

theorem Laid.of_append (h : Laid (us ++ ts) s) : ∃ r, Laid ts r := by
  induction us generalizing s with
  | nil => exact ⟨s, h⟩
  | cons u us ih =>
    cases h with
    | cons _ _ h => exact ih h

/-- After an alternative in words comes no label: it would be among the words. -/
theorem Laid.no_label_of_prose {label : List Char} (h : Laid [⟨.prose, text⟩, ⟨.label, '#' :: label⟩] s) :
    False := by
  cases h with
  | cons _ hs h =>
    cases h with
    | @cons g s _ _ hg _ _ =>
      have hhead : ∀ c, c ≠ '\n' → c ∉ (g ++ '#' :: label ++ s).head? := by
        intro c hc hm
        have := hs c hm
        simp only [Token.runsOn, bne_eq_false_iff_eq] at this
        exact hc this
      cases g with
      | nil => exact hhead '#' (by decide) rfl
      | cons c g =>
        refine hhead c ?_ rfl
        rintro rfl
        exact absurd (hg '\n' (by simp)) (by decide)

/-- An alternative in words is its only symbol, and has no label. -/
theorem Derives.prose_alone (h : Derives ts a) (hs : Laid ts s) {x : List Char}
    (hx : .prose x ∈ a.parts) : a.symbols = [.prose x] ∧ a.label = none := by
  cases h with
  | items _ hi _ =>
    obtain ⟨y, hy, hmem⟩ := List.mem_flatMap.1 hx
    obtain ⟨hwell, hwords⟩ := hi.forall_mem (fun _ _ h => h.wellFormed) y hy
    exact absurd hmem (Symbol.prose_not_mem hwell hwords)
  | @prose gs ls _ text _ label hg hp hl =>
    have hx' : x = proseText text := by simpa [Alternative.parts, Symbol.parts] using hx
    refine ⟨by rw [hx'], ?_⟩
    cases hl with
    | absent => rfl
    | present =>
      rw [List.append_assoc] at hs
      obtain ⟨r, hr⟩ := hs.of_append
      exact hr.no_label_of_prose.elim

/-! ### Soundness -/

/-- What is to hold of an alternative that is read from a text. -/
structure Faithful (s : List Char) (a : Alternative) : Prop where
  source : a.source = s
  /-- The text is the tokens of a derivation of the alternative, with only gaps before, between and
  after them, and the words of the tokens are those of the alternative. -/
  derived : ∃ ts, Laid ts s ∧ Derives ts a ∧ a.words = ts.flatMap Token.words
  inOrder : InOrder a.words s
  symbols_ne_nil : a.symbols ≠ []
  prose_alone : ∀ text, .prose text ∈ a.parts → a.symbols = [.prose text] ∧ a.label = none
  proper : ∀ x ∈ a.parts, x.Proper

/-- An alternative is read as one of its derivations. -/
theorem derives_of_parseAlternative (h : parseAlternative s = .ok a) :
    a.source = s ∧ ∃ ts, Laid ts s ∧ Lexical ts ∧ Derives ts a := by
  unfold parseAlternative at h
  cases hrun : alternativeReader.readAll {} s with
  | error e => simp [hrun, bind, Except.bind] at h
  | ok state =>
    obtain ⟨reading, last⟩ := state
    obtain ⟨ts, hs, hr, hl⟩ := Reader.laid_of_run hrun
    have hprogress := Progress.reads .start hl hr
    simp only [hrun, bind, Except.bind] at h
    split at h
    case h_1 => exact absurd h (by simp)
    case h_3 => exact absurd h (by simp)
    case h_2 b _ hfinish =>
      obtain rfl := Except.ok.inj h
      obtain ⟨hsource, hd⟩ := hprogress.finish hfinish
      exact ⟨hsource, ts, hs, hl, hd⟩

theorem parseAlternative_eq_ok_iff (ha : ∀ text, .prose text ∉ a.symbols) :
    parseAlternative s = .ok a ↔ a.source = s ∧ ∃ ts, Laid ts s ∧ Derives ts a := by
  constructor
  · intro h
    obtain ⟨hsource, ts, hs, -, hd⟩ := derives_of_parseAlternative h
    exact ⟨hsource, ts, hs, hd⟩
  · rintro ⟨rfl, ts, hs, hd⟩
    exact parseAlternative_of_laid hd hs ha

/-- Whatever is read is faithful to its text. -/
theorem parseAlternative_sound (h : parseAlternative s = .ok a) : Faithful s a := by
  obtain ⟨hsource, ts, hs, hl, hd⟩ := derives_of_parseAlternative h
  obtain ⟨hne, hwell⟩ := hd.wellFormed
  refine ⟨hsource, ⟨ts, hs, hd, hd.words⟩, ?_, hne, fun x hx => hd.prose_alone hs hx, ?_⟩
  · rw [hd.words]
    exact hs.inOrder hl
  · intro x hx
    obtain ⟨y, hy, hxy⟩ := List.mem_flatMap.1 hx
    exact hwell y hy x hxy

theorem parseAlternative_sound_guardedLookahead :
    parseAlternative guardedLookahead.written =
        .ok { guardedLookahead with source := guardedLookahead.written } ∧
      Faithful guardedLookahead.written
        { guardedLookahead with source := guardedLookahead.written } := by
  have h := parseAlternative_written guardedLookahead_wellFormed
  exact ⟨h, parseAlternative_sound h⟩

end SpecGrammar.Notation
