import SpecGrammar.Proofs.Notation.Lexeme

/-!
# The rules of the notation

One relation for each rule by which tokens make up an alternative, between the tokens and what they
stand for. `Derives ts a` is the relation of a whole alternative; it says nothing of the text that the
alternative was read from.

* `Derives.wordless`: the tokens of a derivation are lexemes of their kinds;
* `Repeated.concat`: a repetition may be continued at its end.
-/

namespace SpecGrammar.Notation

/-- The token of a kind that has one text only. -/
def Kind.token (kind : Kind) : Token := ⟨kind, kind.word?.getD []⟩

/-! ### The rules -/

/-- One or more of a kind of thing, with separators between them. -/
inductive Repeated {α : Type} (sep : List Token) (P : List Token → α → Prop) :
    List Token → List α → Prop
  | one {ts : List Token} {a : α} (h : P ts a) : Repeated sep P ts [a]
  | more {ts us : List Token} {a : α} {r : List α} (h : P ts a) (hr : Repeated sep P us r) :
      Repeated sep P (ts ++ sep ++ us) (a :: r)

/-- A bracketed list of parameters, which may be left out. -/
inductive Guard : List Token → List (List Char) → Prop
  | absent : Guard [] []
  | present {text : List Char} {entries : List (List Char)} (h : Lists text entries) :
      Guard [⟨.params, text⟩] entries

/-- A question mark, which may be left out. -/
inductive Mark : List Token → Bool → Prop
  | absent : Mark [] false
  | present : Mark [Kind.question.token] true

/-- A literal or the name of a character. -/
inductive Single : List Token → Symbol → Prop
  | terminal {text : List Char} (h : Literal text) :
      Single [⟨.terminal, '`' :: text ++ ['`']⟩] (.terminal text)
  | namedCharacter {text name : List Char} (h : CharacterSpelling text name) :
      Single [⟨.namedCharacter, text⟩] (.namedCharacter ('<' :: name ++ ['>']))

/-- A literal, the name of a character, or a nonterminal with nothing to it but its name. -/
inductive Plain : List Token → Symbol → Prop
  | single {ts : List Token} {s : Symbol} (h : Single ts s) : Plain ts s
  | name {name : List Char} (h : Name name) :
      Plain [⟨.nonterminal, name⟩] (.nonterminal name [] false)

/-- A literal, the name of a character, or a nonterminal. -/
inductive Primary : List Token → Symbol → Prop
  | single {ts : List Token} {s : Symbol} (h : Single ts s) : Primary ts s
  | name {name : List Char} {us vs : List Token} {arguments : List (List Char)} {optional : Bool}
      (h : Name name) (ha : Guard us arguments) (ho : Mark vs optional) :
      Primary (⟨.nonterminal, name⟩ :: us ++ vs) (.nonterminal name arguments optional)

/-- Plain symbols with `or` between them. -/
def Choice : List Token → List Symbol → Prop := Repeated [Kind.or.token] Plain

/-- What stands after `but not`. -/
inductive Exclusion : List Token → List Symbol → Prop
  | choice {ts : List Token} {es : List Symbol} (h : Choice ts es) : Exclusion ts es
  | oneOf {ts : List Token} {es : List Symbol} (h : Choice ts es) :
      Exclusion (Kind.one.token :: Kind.of.token :: ts) es

/-- A set of symbols none of which may stand here. -/
inductive Forbidding : List Token → Symbol → Prop
  | mk {ts : List Token} {members : List Symbol} (h : Choice ts members) :
      Forbidding ([Kind.leftBracket.token, Kind.no.token] ++ ts ++
        [Kind.here.token, Kind.rightBracket.token]) (.noSymbolHere members)

/-- A part of an operand. -/
inductive Part : List Token → Symbol → Prop
  | single {ts : List Token} {s : Symbol} (h : Single ts s) : Part ts s
  | forbidding {ts : List Token} {s : Symbol} (h : Forbidding ts s) : Part ts s

/-- The operands of a lookahead restriction. -/
inductive Comparands : List Token → List (List Symbol) → Prop
  | bare {ts : List Token} {parts : List Symbol} (h : Repeated [] Part ts parts) :
      Comparands ts [parts]
  | braced {ts : List Token} {sequences : List (List Symbol)}
      (h : Repeated [Kind.comma.token] (Repeated [] Part) ts sequences) :
      Comparands (Kind.leftBrace.token :: ts ++ [Kind.rightBrace.token]) sequences
  | name {name : List Char} (h : Name name) :
      Comparands [⟨.nonterminal, name⟩] [[.nonterminal name [] false]]

/-- One item of an alternative. -/
inductive Item : List Token → Symbol → Prop
  | primary {ts : List Token} {s : Symbol} (h : Primary ts s) : Item ts s
  | butNot {ts us : List Token} {left : Symbol} {exclusions : List Symbol} (h : Primary ts left)
      (he : Exclusion us exclusions) :
      Item (ts ++ [Kind.but.token, Kind.not.token] ++ us) (.butNot left exclusions)
  | lookahead {ts : List Token} {text op : List Char} {operands : List (List Symbol)}
      (ho : (text, op) ∈ comparisons) (h : Comparands ts operands) :
      Item ([Kind.leftBracket.token, Kind.lookahead.token, ⟨.operator, text⟩] ++ ts ++
        [Kind.rightBracket.token]) (.lookahead op operands)
  | forbidding {ts : List Token} {s : Symbol} (h : Forbidding ts s) : Item ts s
  | empty : Item [Kind.leftBracket.token, Kind.empty.token, Kind.rightBracket.token] .empty

/-- A label, which may be left out. -/
inductive Labelling : List Token → Option (List Char) → Prop
  | absent : Labelling [] none
  | present {text : List Char} (h : LabelText text) : Labelling [⟨.label, '#' :: text⟩] (some text)

/-- A whole alternative. -/
inductive Derives : List Token → Alternative → Prop
  | items {gs ts ls : List Token} {source : List Char} {constraints : List (List Char)}
      {symbols : List Symbol} {label : Option (List Char)} (hg : Guard gs constraints)
      (hi : Repeated [] Item ts symbols) (hl : Labelling ls label) :
      Derives (gs ++ ts ++ ls) ⟨source, constraints, symbols, label⟩
  | prose {gs ls : List Token} {source text : List Char} {constraints : List (List Char)}
      {label : Option (List Char)} (hg : Guard gs constraints) (hp : Lexeme .prose text)
      (hl : Labelling ls label) :
      Derives (gs ++ [⟨.prose, text⟩] ++ ls) ⟨source, constraints, [.prose (proseText text)], label⟩

/-- Whichever way they are introduced, exclusions are a choice. -/
theorem Exclusion.toChoice {ts : List Token} {es : List Symbol} (h : Exclusion ts es) :
    ∃ us, Choice us es := by
  cases h with
  | choice h => exact ⟨_, h⟩
  | oneOf h => exact ⟨_, h⟩

/-! ### Repetitions -/

section Repeated

variable {α : Type} {sep ts us : List Token} {P Q : List Token → α → Prop} {a : α} {r q : List α}

theorem Repeated.ne_nil (h : Repeated sep P ts r) : r ≠ [] := by
  cases h <;> simp

theorem Repeated.append (h : Repeated sep P ts r) (h' : Repeated sep P us q) :
    Repeated sep P (ts ++ sep ++ us) (r ++ q) := by
  induction h with
  | one h => exact .more h h'
  | more h _ ih =>
    have := Repeated.more h ih
    simpa only [List.append_assoc, List.cons_append] using this

theorem Repeated.concat (h : Repeated sep P ts r) (ha : P us a) :
    Repeated sep P (ts ++ sep ++ us) (r ++ [a]) :=
  h.append (.one ha)

/-- What holds of the separator and of the tokens of each member holds of all tokens. -/
theorem Repeated.forall_token {C : Token → Prop} (hs : ∀ t ∈ sep, C t)
    (hP : ∀ ts a, P ts a → ∀ t ∈ ts, C t) (h : Repeated sep P ts r) : ∀ t ∈ ts, C t := by
  induction h with
  | one h => exact hP _ _ h
  | more h _ ih =>
    intro t ht
    simp only [List.mem_append] at ht
    rcases ht with (ht | ht) | ht
    · exact hP _ _ h t ht
    · exact hs t ht
    · exact ih t ht

/-- What holds of the thing each member stands for holds of all of them. -/
theorem Repeated.forall_mem {C : α → Prop} (hP : ∀ ts a, P ts a → C a)
    (h : Repeated sep P ts r) : ∀ a ∈ r, C a := by
  induction h with
  | one h => simpa using hP _ _ h
  | more h _ ih => simpa using ⟨hP _ _ h, ih⟩

/-- Things that each have tokens have tokens together, with the separator between them. -/
theorem Repeated.intercalate {tokens : α → List Token} (hne : r ≠ [])
    (h : ∀ a ∈ r, P (tokens a) a) : Repeated sep P (sep.intercalate (r.map tokens)) r := by
  induction r with
  | nil => exact absurd rfl hne
  | cons a q ih =>
    cases q with
    | nil => simpa [List.intercalate] using Repeated.one (h a (by simp))
    | cons b q =>
      have hrest := ih (by simp) fun c hc => h c (List.mem_cons_of_mem _ hc)
      have := Repeated.more (h a (by simp)) hrest
      simpa [List.intercalate] using this

theorem Repeated.flatMap {tokens : α → List Token} (hne : r ≠ []) (h : ∀ a ∈ r, P (tokens a) a) :
    Repeated [] P (r.flatMap tokens) r := by
  induction r with
  | nil => exact absurd rfl hne
  | cons a q ih =>
    cases q with
    | nil => simpa using Repeated.one (h a (by simp))
    | cons b q =>
      have hrest := ih (by simp) fun c hc => h c (List.mem_cons_of_mem _ hc)
      have := Repeated.more (h a (by simp)) hrest
      simpa only [List.append_nil, List.flatMap_cons] using this

end Repeated

/-! ### The tokens of a derivation are lexemes -/

/-- Each of the tokens is a lexeme of its kind. -/
def Lexical (ts : List Token) : Prop := ∀ t ∈ ts, Lexeme t.kind t.text

/-- Each of the tokens is a lexeme of its kind, and none is a description in words. -/
def Wordless (ts : List Token) : Prop := ∀ t ∈ ts, Lexeme t.kind t.text ∧ t.kind ≠ .prose

variable {ts us : List Token} {s : Symbol}

theorem Wordless.append (h : Wordless ts) (h' : Wordless us) : Wordless (ts ++ us) :=
  fun t ht => (List.mem_append.1 ht).elim (h t) (h' t)

theorem Wordless.nil : Wordless [] := by simp [Wordless]

theorem Wordless.singleton {kind : Kind} {text : List Char} (h : Lexeme kind text)
    (hk : kind ≠ .prose) : Wordless [⟨kind, text⟩] := by
  simpa [Wordless] using ⟨h, hk⟩

theorem Wordless.cons {t : Token} (h : Wordless [t]) (h' : Wordless ts) : Wordless (t :: ts) :=
  h.append h'

theorem Wordless.word {kind : Kind} (h : kind.word?.isSome = true) : Wordless [kind.token] := by
  obtain ⟨w, hw⟩ := Option.isSome_iff_exists.1 h
  rw [Kind.token, hw]
  refine .singleton (.word hw) ?_
  rintro rfl
  exact Bool.noConfusion h

theorem Guard.wordless {ps : List (List Char)} (h : Guard ts ps) : Wordless ts := by
  cases h with
  | absent => exact .nil
  | present h => exact .singleton (.params h) (by decide)

theorem Mark.wordless {b : Bool} (h : Mark ts b) : Wordless ts := by
  cases h with
  | absent => exact .nil
  | present => exact .word rfl

theorem Single.wordless (h : Single ts s) : Wordless ts := by
  cases h with
  | terminal h => exact .singleton (.terminal h) (by decide)
  | namedCharacter h => exact .singleton (.namedCharacter h) (by decide)

theorem Name.wordless {name : List Char} (h : Name name) : Wordless [⟨.nonterminal, name⟩] :=
  .singleton (.nonterminal h) (by decide)

theorem Plain.wordless (h : Plain ts s) : Wordless ts := by
  cases h with
  | single h => exact h.wordless
  | name h => exact h.wordless

theorem Primary.wordless (h : Primary ts s) : Wordless ts := by
  cases h with
  | single h => exact h.wordless
  | name h ha ho => exact .append (.cons h.wordless ha.wordless) ho.wordless

theorem Choice.wordless {r : List Symbol} (h : Choice ts r) : Wordless ts :=
  Repeated.forall_token (Wordless.word rfl) (fun _ _ h => h.wordless) h

theorem Exclusion.wordless {r : List Symbol} (h : Exclusion ts r) : Wordless ts := by
  cases h with
  | choice h => exact h.wordless
  | oneOf h => exact .cons (.word rfl) (.cons (.word rfl) h.wordless)

theorem Forbidding.wordless (h : Forbidding ts s) : Wordless ts := by
  obtain ⟨h⟩ := h
  exact .append (.append (.cons (.word rfl) (.word rfl)) h.wordless) (.cons (.word rfl) (.word rfl))

theorem Part.wordless (h : Part ts s) : Wordless ts := by
  cases h with
  | single h => exact h.wordless
  | forbidding h => exact h.wordless

theorem Comparands.wordless {q : List (List Symbol)} (h : Comparands ts q) : Wordless ts := by
  have hparts : ∀ ts parts, Repeated [] Part ts parts → Wordless ts := fun _ _ h =>
    h.forall_token (by simp) fun _ _ h => h.wordless
  cases h with
  | bare h => exact hparts _ _ h
  | braced h =>
    have hinner : Wordless _ := h.forall_token (Wordless.word rfl) hparts
    exact .append (.cons (.word rfl) hinner) (.word rfl)
  | name h => exact h.wordless

theorem Item.wordless (h : Item ts s) : Wordless ts := by
  cases h with
  | primary h => exact h.wordless
  | butNot h he => exact .append (.append h.wordless (.cons (.word rfl) (.word rfl))) he.wordless
  | lookahead ho h =>
    have hop : Wordless [⟨.operator, _⟩] := .singleton (.operator ho) (by decide)
    exact .append (.append (.cons (.word rfl) (.cons (.word rfl) hop)) h.wordless) (.word rfl)
  | forbidding h => exact h.wordless
  | empty => exact .cons (.word rfl) (.cons (.word rfl) (.word rfl))

theorem Labelling.wordless {label : Option (List Char)} (h : Labelling ts label) :
    Wordless ts := by
  cases h with
  | absent => exact .nil
  | present h => exact .singleton (.label h) (by decide)

theorem Wordless.items {gs ls : List Token} {constraints : List (List Char)}
    {symbols : List Symbol} {label : Option (List Char)} (hg : Guard gs constraints)
    (hi : Repeated [] Item ts symbols) (hl : Labelling ls label) : Wordless (gs ++ ts ++ ls) := by
  have hitems : Wordless ts := hi.forall_token (by simp) fun _ _ h => h.wordless
  exact .append (.append hg.wordless hitems) hl.wordless

/-- The tokens of an alternative that is not described in words. -/
theorem Derives.wordless {a : Alternative} (h : Derives ts a)
    (ha : ∀ text, .prose text ∉ a.symbols) : Wordless ts := by
  cases h with
  | items hg hi hl => exact .items hg hi hl
  | prose => exact absurd (List.mem_singleton_self _) (ha _)

end SpecGrammar.Notation
