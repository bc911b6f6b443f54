import SpecGrammar.Proofs.Notation.Recognition
import SpecGrammar.Proofs.Notation.Shape

/-!
# Everything that the notation allows is read

* `Alternative.WellFormed`: the alternatives that the notation can say with symbols;
* `Alternative.written`: a way to write each of them;
* `parseAlternative_complete`: it is read back as what it was written for, and so is every other text
  that is laid out as a derivation of the alternative.
-/

namespace SpecGrammar.Notation

variable {s : Symbol} {ts : List Token} {a : Alternative}

/-- Constraints, one or more symbols none of which is a description in words, and a label, all of the
right form. -/
structure Alternative.WellFormed (a : Alternative) : Prop where
  constraints : ∀ c ∈ a.constraints, Parameter c
  symbols_ne_nil : a.symbols ≠ []
  symbols : ∀ s ∈ a.symbols, s.WellFormed
  wordless : ∀ text, .prose text ∉ a.symbols
  label : ∀ l ∈ a.label, LabelText l

/-! ### Tokens for an alternative -/

def guardTokens (entries : List (List Char)) : List Token :=
  if entries = [] then [] else [⟨.params, '[' :: Text.joinWith [','] entries ++ [']']⟩]

/-- Tokens for a literal, the name of a character, or a nonterminal. -/
def Symbol.primaryTokens : Symbol → List Token
  | .terminal text => [⟨.terminal, '`' :: text ++ ['`']⟩]
  | .namedCharacter text => [⟨.namedCharacter, text⟩]
  | .nonterminal name arguments optional =>
    ⟨.nonterminal, name⟩ :: guardTokens arguments ++
      if optional then [Kind.question.token] else []
  | _ => []

def choiceTokens (symbols : List Symbol) : List Token :=
  [Kind.or.token].intercalate (symbols.map Symbol.primaryTokens)

def forbiddingTokens (members : List Symbol) : List Token :=
  [Kind.leftBracket.token, Kind.no.token] ++ choiceTokens members ++
    [Kind.here.token, Kind.rightBracket.token]

/-- Tokens for a part of an operand. -/
def Symbol.partTokens : Symbol → List Token
  | .noSymbolHere members => forbiddingTokens members
  | s => s.primaryTokens

/-- Tokens for operands. Several sequences need braces; one of them does without. -/
def operandTokens : List (List Symbol) → List Token
  | [[.nonterminal name _ _]] => [⟨.nonterminal, name⟩]
  | [q] => q.flatMap Symbol.partTokens
  | operands =>
    Kind.leftBrace.token :: [Kind.comma.token].intercalate
      (operands.map fun q => q.flatMap Symbol.partTokens) ++ [Kind.rightBrace.token]

def Symbol.tokens : Symbol → List Token
  | .lookahead operator operands =>
    [Kind.leftBracket.token, Kind.lookahead.token, ⟨.operator, operator⟩] ++ operandTokens operands ++
      [Kind.rightBracket.token]
  | .noSymbolHere members => forbiddingTokens members
  | .butNot left exclusions =>
    left.primaryTokens ++ [Kind.but.token, Kind.not.token] ++ choiceTokens exclusions
  | .empty => [Kind.leftBracket.token, Kind.empty.token, Kind.rightBracket.token]
  | s => s.primaryTokens

def labelTokens : Option (List Char) → List Token
  | none => []
  | some text => [⟨.label, '#' :: text⟩]

def Alternative.tokens (a : Alternative) : List Token :=
  guardTokens a.constraints ++ a.symbols.flatMap Symbol.tokens ++ labelTokens a.label

/-- The tokens of an alternative with single spaces between them. -/
def Alternative.written (a : Alternative) : List Char :=
  Text.joinWith [' '] (a.tokens.map Token.text)

/-! ### They are a derivation -/

theorem guard_guardTokens {entries : List (List Char)} (h : ∀ e ∈ entries, Parameter e) :
    Guard (guardTokens entries) entries := by
  unfold guardTokens
  split
  case isTrue hnil =>
    subst hnil
    exact .absent
  case isFalse hne =>
    refine .present (.mk hne h ?_)
    exact List.forall₂_same.2 fun e _ => ⟨[], [], by simp [Text.Blank], by simp [Text.Blank], by simp⟩

theorem labelling_labelTokens {label : Option (List Char)} (h : ∀ l ∈ label, LabelText l) :
    Labelling (labelTokens label) label := by
  cases label with
  | none => exact .absent
  | some l => exact .present (h l rfl)

theorem single_terminal {text : List Char} (h : (Symbol.terminal text).WellFormed) :
    Single (Symbol.terminal text).primaryTokens (.terminal text) :=
  .terminal ((Symbol.wellFormed_of_parts rfl).1 h)

theorem single_namedCharacter {text : List Char} (h : (Symbol.namedCharacter text).WellFormed) :
    Single (Symbol.namedCharacter text).primaryTokens (.namedCharacter text) := by
  obtain ⟨name, hname, rfl⟩ := (Symbol.wellFormed_of_parts rfl).1 h
  exact .namedCharacter (.plain hname)

theorem Symbol.primary_primaryTokens (hs : s.IsPrimary) (h : s.WellFormed) :
    Primary s.primaryTokens s := by
  cases s with
  | terminal => exact .single (single_terminal h)
  | namedCharacter => exact .single (single_namedCharacter h)
  | nonterminal name arguments optional =>
    obtain ⟨hname, hargs⟩ := (Symbol.wellFormed_of_parts rfl).1 h
    refine .name hname (guard_guardTokens hargs) ?_
    cases optional
    · exact .absent
    · exact .present
  | _ => exact absurd hs (by simp [IsPrimary])

theorem Symbol.plain_primaryTokens (hs : s.IsPlain) (h : s.WellFormed) :
    Plain s.primaryTokens s := by
  cases s with
  | terminal => exact .single (single_terminal h)
  | namedCharacter => exact .single (single_namedCharacter h)
  | nonterminal =>
    obtain ⟨rfl, rfl⟩ := hs
    exact .name ((Symbol.wellFormed_of_parts rfl).1 h).1
  | _ => exact absurd hs (by simp [IsPlain])

theorem choice_choiceTokens {members : List Symbol} (hne : members ≠ [])
    (h : ∀ m ∈ members, m.IsPlain ∧ m.WellFormed) : Choice (choiceTokens members) members :=
  Repeated.intercalate hne fun m hm => Symbol.plain_primaryTokens (h m hm).1 (h m hm).2

theorem forbidding_forbiddingTokens {members : List Symbol}
    (h : (Symbol.noSymbolHere members).WellFormed) :
    Forbidding (forbiddingTokens members) (.noSymbolHere members) := by
  obtain ⟨hne, hm⟩ := Symbol.wellFormed_noSymbolHere.1 h
  exact .mk (choice_choiceTokens hne hm)

theorem Symbol.part_partTokens (hs : s.IsPart) (h : s.WellFormed) : Part s.partTokens s := by
  cases s with
  | terminal => exact .single (single_terminal h)
  | namedCharacter => exact .single (single_namedCharacter h)
  | noSymbolHere => exact .forbidding (forbidding_forbiddingTokens h)
  | _ => exact absurd hs (by simp [IsPart])

theorem comparands_operandTokens {operands : List (List Symbol)} (hc : IsComparable operands)
    (h : ∀ q ∈ operands, ∀ s ∈ q, s.WellFormed) : Comparands (operandTokens operands) operands := by
  rcases hc with ⟨name, rfl⟩ | ⟨hne, hparts⟩
  · have hs := h _ (List.mem_singleton_self _) _ (List.mem_singleton_self _)
    exact .name ((Symbol.wellFormed_of_parts rfl).1 hs).1
  have hseq : ∀ q ∈ operands, Repeated [] Part (q.flatMap Symbol.partTokens) q := fun q hq =>
    .flatMap (hparts q hq).1 fun s hs => Symbol.part_partTokens ((hparts q hq).2 s hs) (h q hq s hs)
  unfold operandTokens
  split
  case h_1 name arguments optional =>
    -- a nonterminal is no part of an operand
    exact absurd ((hparts _ (List.mem_singleton_self _)).2 _ (List.mem_singleton_self _))
      (by simp [Symbol.IsPart])
  case h_2 q _ => exact .bare (hseq q (List.mem_singleton_self q))
  case h_3 => exact .braced (.intercalate hne hseq)

theorem Symbol.item_tokens (h : s.WellFormed) (hs : ∀ text, s ≠ .prose text) : Item s.tokens s := by
  cases s with
  | terminal | namedCharacter | nonterminal =>
    exact .primary (primary_primaryTokens (by trivial) h)
  | lookahead operator operands =>
    obtain ⟨hop, hc, hall⟩ := wellFormed_lookahead.1 h
    exact .lookahead (mem_comparisons hop) (comparands_operandTokens hc hall)
  | noSymbolHere => exact .forbidding (forbidding_forbiddingTokens h)
  | butNot =>
    obtain ⟨hp, hleft, hne, hm⟩ := wellFormed_butNot.1 h
    exact .butNot (primary_primaryTokens hp hleft) (.choice (choice_choiceTokens hne hm))
  | empty => exact .empty
  | prose text => exact absurd rfl (hs text)

theorem Alternative.WellFormed.derives (h : a.WellFormed) : Derives a.tokens a := by
  have hitems : Repeated [] Item (a.symbols.flatMap Symbol.tokens) a.symbols :=
    .flatMap h.symbols_ne_nil fun s hs => Symbol.item_tokens (h.symbols s hs) (by
      rintro text rfl
      exact h.wordless text hs)
  exact .items (guard_guardTokens h.constraints) hitems (labelling_labelTokens h.label)

/-! ### What they are written as -/

/-- Tokens with single spaces between them are laid out, as none of them runs on into a space. -/
theorem Laid.joinWith (h : ∀ t ∈ ts, t.kind ≠ .prose) :
    Laid ts (Text.joinWith [' '] (ts.map Token.text)) := by
  have hnil : Gap [] := by simp [Gap]
  induction ts with
  | nil => exact .nil hnil
  | cons t ts ih =>
    obtain ⟨ht, hts⟩ := List.forall_mem_cons.1 h
    have hsingle : Laid [t] ([] ++ t.text ++ []) := .cons hnil (by simp) (.nil hnil)
    rw [List.nil_append, List.append_nil] at hsingle
    cases ts with
    | nil => exact hsingle
    | cons u ts =>
      have hjoined := hsingle.append (ih hts) (List.forall_mem_singleton.2 ht)
      rw [List.map_cons, Text.joinWith_cons (by simp), List.append_assoc]
      exact hjoined

/-! ### Completeness -/

/-- A text that is laid out as a derivation is read as what it derives. -/
theorem parseAlternative_of_laid {source : List Char} (h : Derives ts a) (hs : Laid ts source)
    (ha : ∀ text, .prose text ∉ a.symbols) :
    parseAlternative source = .ok { a with source } := by
  obtain ⟨r, hr, hexcess, hfinish⟩ := h.leads ha
  have hend : r.finish? source ≠ none := by
    rw [hfinish]
    simp
  obtain ⟨last, hrun⟩ := run_of_laid hs (h.wordless ha) hend .start hr
  have hall : alternativeReader.readAll {} source = .ok (r, last) := hrun
  simp only [parseAlternative, hall, bind, Except.bind, hexcess, hfinish]

theorem parseAlternative_written (h : a.WellFormed) :
    parseAlternative a.written = .ok { a with source := a.written } := by
  have hlaid := Laid.joinWith fun t ht => (h.derives.wordless h.wordless t ht).2
  exact parseAlternative_of_laid h.derives hlaid h.wordless

/-- A well-formed alternative is read back from what it is written as, and from whatever is laid out as
one of its derivations: with any spelling of its tokens, any white space in its lists, and any gaps. -/
theorem parseAlternative_complete (h : a.WellFormed) :
    parseAlternative a.written = .ok { a with source := a.written } ∧
      ∀ ts source, Derives ts a → Laid ts source →
        parseAlternative source = .ok { a with source } :=
  ⟨parseAlternative_written h, fun _ _ hd hs => parseAlternative_of_laid hd hs h.wordless⟩

/-- An alternative with constraints, arguments, a restriction with braces, and a label. -/
def guardedLookahead : Alternative where
  source := []
  constraints := [['+', 'I']]
  symbols :=
    [.nonterminal ['A'] [['?', 'B']] true,
      .lookahead ['∉'] [[.terminal ['c']], [.noSymbolHere [.nonterminal ['D'] [] false]]]]
  label := some ['l']

example : guardedLookahead.written =
    "[+I] A [?B] ? [ lookahead ∉ \x7b `c` , [ no D here ] \x7d ] #l".toList := by decide

theorem guardedLookahead_wellFormed : guardedLookahead.WellFormed where
  constraints := by
    simpa [guardedLookahead] using Parameter.sigil (.inr (.inl rfl)) (by decide) (by simp)
  symbols_ne_nil := by simp [guardedLookahead]
  symbols := by
    have hA : Name ['A'] := .mk (by decide) (by simp)
    have hB : Parameter ['?', 'B'] := .sigil (.inl rfl) (by decide) (by simp)
    have hc : Literal ['c'] := .inr ⟨by simp, List.forall_mem_singleton.2 (by decide)⟩
    have hD : Name ['D'] := .mk (by decide) (by simp)
    simp [guardedLookahead, Symbol.WellFormed, Symbol.parts, partsOfSequences, partsOfAll,
      Symbol.Proper, IsComparable, Symbol.IsPart, Symbol.IsPlain, signs, hA, hB, hc, hD]
  wordless := by simp [guardedLookahead]
  label := by
    have hl : LabelText ['l'] := by
      refine ⟨by simp, fun c hc => .inl ?_⟩
      rw [List.mem_singleton.1 hc]
      decide
    simpa [guardedLookahead] using hl

theorem parseAlternative_complete_guardedLookahead :
    guardedLookahead.WellFormed ∧
      parseAlternative guardedLookahead.written =
        .ok { guardedLookahead with source := guardedLookahead.written } :=
  ⟨guardedLookahead_wellFormed, (parseAlternative_complete guardedLookahead_wellFormed).1⟩

end SpecGrammar.Notation
