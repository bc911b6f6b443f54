import SpecGrammar.Proofs.Notation.Rule

/-!
# The shape of what the notation can say

* `Symbol.Proper`: what the notation demands of one symbol; `Symbol.WellFormed`: of a symbol and of all
  symbols within it;
* `Derives.wellFormed`: what a derivation stands for is well formed;
* `Derives.words`: its literals, names, arguments and label are those of its tokens, in their order.
-/

namespace SpecGrammar.Notation

/-! ### The symbols within a symbol -/

mutual

/-- A symbol and the symbols within it. -/
def Symbol.parts : Symbol → List Symbol
  | .lookahead operator operands => .lookahead operator operands :: partsOfSequences operands
  | .noSymbolHere members => .noSymbolHere members :: partsOfAll members
  | .butNot left exclusions => .butNot left exclusions :: (left.parts ++ partsOfAll exclusions)
  | s => [s]

def partsOfAll : List Symbol → List Symbol
  | [] => []
  | s :: r => s.parts ++ partsOfAll r

def partsOfSequences : List (List Symbol) → List Symbol
  | [] => []
  | q :: r => partsOfAll q ++ partsOfSequences r

end

def Alternative.parts (a : Alternative) : List Symbol := a.symbols.flatMap Symbol.parts

theorem mem_partsOfAll {x : Symbol} {l : List Symbol} : x ∈ partsOfAll l ↔ ∃ s ∈ l, x ∈ s.parts := by
  induction l with
  | nil => simp [partsOfAll]
  | cons s l ih => simp [partsOfAll, ih]

theorem mem_partsOfSequences {x : Symbol} {l : List (List Symbol)} :
    x ∈ partsOfSequences l ↔ ∃ q ∈ l, ∃ s ∈ q, x ∈ s.parts := by
  induction l with
  | nil => simp [partsOfSequences]
  | cons q l ih => simp [partsOfSequences, mem_partsOfAll, ih]

/-! ### Well-formed symbols -/

/-- A literal, the name of a character, or a nonterminal with nothing to it but its name. -/
def Symbol.IsPlain : Symbol → Prop
  | .terminal _ | .namedCharacter _ => True
  | .nonterminal _ arguments optional => arguments = [] ∧ optional = false
  | _ => False

/-- A literal, the name of a character, or a nonterminal. -/
def Symbol.IsPrimary : Symbol → Prop
  | .terminal _ | .namedCharacter _ | .nonterminal _ _ _ => True
  | _ => False

/-- What an operand may be made of. -/
def Symbol.IsPart : Symbol → Prop
  | .terminal _ | .namedCharacter _ | .noSymbolHere _ => True
  | _ => False

/-- The operands are one nonterminal by its name, or sequences, none of them empty. -/
def IsComparable (operands : List (List Symbol)) : Prop :=
  (∃ name, operands = [[.nonterminal name [] false]]) ∨
    operands ≠ [] ∧ ∀ q ∈ operands, q ≠ [] ∧ ∀ s ∈ q, s.IsPart

/-- The comparisons of a lookahead restriction, as they are told. -/
def signs : List (List Char) :=
  ["==", "!=", "=", "≠", "∈", "∉", "<-", "<!"].map String.toList

/-- What the notation demands of a symbol, apart from what it demands of the symbols within it. -/
def Symbol.Proper : Symbol → Prop
  | .terminal text => Literal text
  | .namedCharacter text => ∃ name, CharacterName name ∧ text = '<' :: name ++ ['>']
  | .nonterminal name arguments _ => Name name ∧ ∀ a ∈ arguments, Parameter a
  | .lookahead operator operands => operator ∈ signs ∧ IsComparable operands
  | .noSymbolHere members => members ≠ [] ∧ ∀ m ∈ members, m.IsPlain
  | .butNot left exclusions => left.IsPrimary ∧ exclusions ≠ [] ∧ ∀ e ∈ exclusions, e.IsPlain
  | .empty | .prose _ => True

def Symbol.WellFormed (s : Symbol) : Prop := ∀ x ∈ s.parts, x.Proper

theorem mem_signs {text op : List Char} (h : (text, op) ∈ comparisons) : op ∈ signs := by
  have key : ∀ spelled ∈ comparisons, spelled.2 ∈ signs := by decide
  exact key _ h

/-- Each comparison may be spelled as it is told. -/
theorem mem_comparisons {op : List Char} (h : op ∈ signs) : (op, op) ∈ comparisons := by
  have key : ∀ op ∈ signs, (op, op) ∈ comparisons := by decide
  exact key op h

section WellFormed

variable {s left : Symbol} {name op : List Char} {arguments : List (List Char)} {optional : Bool}
  {members : List Symbol} {operands : List (List Symbol)}

theorem Symbol.wellFormed_of_parts (hs : s.parts = [s]) : s.WellFormed ↔ s.Proper := by
  simp [Symbol.WellFormed, hs]

theorem Symbol.wellFormed_noSymbolHere :
    (Symbol.noSymbolHere members).WellFormed ↔
      members ≠ [] ∧ ∀ m ∈ members, m.IsPlain ∧ m.WellFormed := by
  simp only [WellFormed, parts, List.forall_mem_cons, Proper, mem_partsOfAll]
  grind

theorem Symbol.wellFormed_butNot :
    (Symbol.butNot left members).WellFormed ↔
      left.IsPrimary ∧ left.WellFormed ∧ members ≠ [] ∧ ∀ m ∈ members, m.IsPlain ∧ m.WellFormed := by
  simp only [WellFormed, parts, List.forall_mem_cons, Proper, List.mem_append, mem_partsOfAll]
  grind

theorem Symbol.wellFormed_lookahead :
    (Symbol.lookahead op operands).WellFormed ↔
      op ∈ signs ∧ IsComparable operands ∧ ∀ q ∈ operands, ∀ s ∈ q, s.WellFormed := by
  simp only [WellFormed, parts, List.forall_mem_cons, Proper, mem_partsOfSequences]
  grind

/-! ### No words in a symbol -/

variable {x : List Char}

theorem Symbol.prose_not_mem_of_isPlain (h : s.IsPlain) : .prose x ∉ s.parts := by
  cases s <;> simp_all [IsPlain, parts]

theorem Symbol.prose_not_mem_of_isPrimary (h : s.IsPrimary) : .prose x ∉ s.parts := by
  cases s <;> simp_all [IsPrimary, parts]

theorem Symbol.prose_not_mem_of_isPart (h : s.IsPart) (hs : s.WellFormed) :
    .prose x ∉ s.parts := by
  cases s with
  | noSymbolHere members =>
    obtain ⟨-, hm⟩ := wellFormed_noSymbolHere.1 hs
    simp only [parts, List.mem_cons, reduceCtorEq, false_or, mem_partsOfAll, not_exists, not_and]
    exact fun m hmem => prose_not_mem_of_isPlain (hm m hmem).1
  | _ => simp_all [IsPart, parts]

/-- A description in words stands within no other symbol. -/
theorem Symbol.prose_not_mem (h : s.WellFormed) (hs : ∀ text, s ≠ .prose text) :
    .prose x ∉ s.parts := by
  cases s with
  | terminal | namedCharacter | nonterminal | empty => simp [parts]
  | prose text => exact absurd rfl (hs text)
  | noSymbolHere members => exact prose_not_mem_of_isPart trivial h
  | butNot left exclusions =>
    obtain ⟨hleft, -, -, hm⟩ := wellFormed_butNot.1 h
    simp only [parts, List.mem_cons, reduceCtorEq, false_or, List.mem_append, mem_partsOfAll, not_or,
      not_exists, not_and]
    exact ⟨prose_not_mem_of_isPrimary hleft, fun m hmem => prose_not_mem_of_isPlain (hm m hmem).1⟩
  | lookahead operator operands =>
    obtain ⟨-, hcomp, hall⟩ := wellFormed_lookahead.1 h
    simp only [parts, List.mem_cons, reduceCtorEq, false_or, mem_partsOfSequences, not_exists, not_and]
    rcases hcomp with ⟨name, rfl⟩ | ⟨-, hparts⟩
    · simp [parts]
    · exact fun q hq y hy => prose_not_mem_of_isPart ((hparts q hq).2 y hy) (hall q hq y hy)

end WellFormed

/-! ### What derivations stand for is well formed -/

variable {ts : List Token} {s : Symbol}

theorem Single.wellFormed (h : Single ts s) : s.IsPlain ∧ s.WellFormed := by
  cases h with
  | terminal h => exact ⟨trivial, (Symbol.wellFormed_of_parts rfl).2 h⟩
  | namedCharacter h =>
    refine ⟨trivial, (Symbol.wellFormed_of_parts rfl).2 ?_⟩
    cases h with
    | plain h => exact ⟨_, h, rfl⟩
    | reference h => exact ⟨_, h, rfl⟩

theorem Plain.wellFormed (h : Plain ts s) : s.IsPlain ∧ s.WellFormed := by
  cases h with
  | single h => exact h.wellFormed
  | name h => exact ⟨⟨rfl, rfl⟩, (Symbol.wellFormed_of_parts rfl).2 ⟨h, by simp⟩⟩

theorem Guard.parameters {entries : List (List Char)} (h : Guard ts entries) :
    ∀ e ∈ entries, Parameter e := by
  cases h with
  | absent => simp
  | present h =>
    obtain ⟨-, hp, -⟩ := h
    exact hp

theorem Primary.wellFormed (h : Primary ts s) : s.IsPrimary ∧ s.WellFormed := by
  cases h with
  | single h => exact ⟨by cases h <;> trivial, h.wellFormed.2⟩
  | name h ha => exact ⟨trivial, (Symbol.wellFormed_of_parts rfl).2 ⟨h, ha.parameters⟩⟩

theorem Choice.wellFormed {members : List Symbol} (h : Choice ts members) :
    members ≠ [] ∧ ∀ m ∈ members, m.IsPlain ∧ m.WellFormed :=
  ⟨h.ne_nil, h.forall_mem fun _ _ h => h.wellFormed⟩

theorem Forbidding.wellFormed (h : Forbidding ts s) : s.IsPart ∧ s.WellFormed := by
  obtain ⟨h⟩ := h
  exact ⟨trivial, Symbol.wellFormed_noSymbolHere.2 h.wellFormed⟩

theorem Part.wellFormed (h : Part ts s) : s.IsPart ∧ s.WellFormed := by
  cases h with
  | single h => exact ⟨by cases h <;> trivial, h.wellFormed.2⟩
  | forbidding h => exact h.wellFormed

theorem Comparands.wellFormed {operands : List (List Symbol)} (h : Comparands ts operands) :
    IsComparable operands ∧ ∀ q ∈ operands, ∀ s ∈ q, s.WellFormed := by
  have hparts : ∀ ts parts, Repeated [] Part ts parts →
      parts ≠ [] ∧ ∀ s ∈ parts, s.IsPart ∧ s.WellFormed := fun _ _ h =>
    ⟨h.ne_nil, h.forall_mem fun _ _ h => h.wellFormed⟩
  cases h with
  | bare h =>
    obtain ⟨hne, hall⟩ := hparts _ _ h
    refine ⟨.inr ⟨by simp, ?_⟩, ?_⟩
    · simpa using ⟨hne, fun s hs => (hall s hs).1⟩
    · simpa using fun s hs => (hall s hs).2
  | braced h =>
    have hall := h.forall_mem hparts
    refine ⟨.inr ⟨h.ne_nil, fun q hq => ⟨(hall q hq).1, ?_⟩⟩, fun q hq s hs => ?_⟩
    · exact fun s hs => ((hall q hq).2 s hs).1
    · exact ((hall q hq).2 s hs).2
  | name h =>
    refine ⟨.inl ⟨_, rfl⟩, ?_⟩
    simpa using (Plain.name h).wellFormed.2

theorem Item.wellFormed (h : Item ts s) : s.WellFormed ∧ ∀ text, s ≠ .prose text := by
  cases h with
  | primary h =>
    obtain ⟨hp, hs⟩ := h.wellFormed
    exact ⟨hs, by rintro text rfl; exact hp⟩
  | butNot h he =>
    obtain ⟨hp, hs⟩ := h.wellFormed
    obtain ⟨us, hes⟩ := he.toChoice
    exact ⟨Symbol.wellFormed_butNot.2 ⟨hp, hs, hes.wellFormed⟩, by simp⟩
  | lookahead ho h => exact ⟨Symbol.wellFormed_lookahead.2 ⟨mem_signs ho, h.wellFormed⟩, by simp⟩
  | forbidding h =>
    obtain ⟨hp, hs⟩ := h.wellFormed
    exact ⟨hs, by rintro text rfl; exact hp⟩
  | empty => exact ⟨(Symbol.wellFormed_of_parts rfl).2 trivial, by simp⟩

theorem Derives.wellFormed {a : Alternative} (h : Derives ts a) :
    a.symbols ≠ [] ∧ ∀ s ∈ a.symbols, s.WellFormed := by
  cases h with
  | items _ hi _ => exact ⟨hi.ne_nil, hi.forall_mem fun _ _ h => h.wellFormed.1⟩
  | prose => exact ⟨by simp, by simp [Symbol.WellFormed, Symbol.parts, Symbol.Proper]⟩

/-! ### Words -/

mutual

/-- The literals, names and arguments in a symbol, in order. -/
def Symbol.words : Symbol → List (List Char)
  | .terminal text => [text]
  | .namedCharacter text => [(text.drop 1).dropLast]
  | .nonterminal name arguments _ => name :: arguments
  | .lookahead _ operands => wordsOfSequences operands
  | .noSymbolHere members => wordsOfAll members
  | .butNot left exclusions => left.words ++ wordsOfAll exclusions
  | .empty | .prose _ => []

def wordsOfAll : List Symbol → List (List Char)
  | [] => []
  | s :: r => s.words ++ wordsOfAll r

def wordsOfSequences : List (List Symbol) → List (List Char)
  | [] => []
  | q :: r => wordsOfAll q ++ wordsOfSequences r

end

/-- The literals, names, arguments and label of an alternative, in order. -/
def Alternative.words (a : Alternative) : List (List Char) :=
  a.constraints ++ wordsOfAll a.symbols ++ a.label.toList

/-- The literals, names, arguments and label in a token. -/
def Token.words (t : Token) : List (List Char) :=
  match t.kind with
  | .params => parameters t.text
  | .terminal => [(t.text.drop 1).dropLast]
  | .namedCharacter => [((Reference.decode t.text).drop 1).dropLast]
  | .nonterminal => [t.text]
  | .label => [t.text.drop 1]
  | _ => []

/-- A repetition stands for what its members stand for, if its separators stand for nothing. -/
theorem Repeated.words {α : Type} {sep : List Token} {P : List Token → α → Prop} {r : List α}
    {f : α → List (List Char)} (hs : sep.flatMap Token.words = [])
    (hP : ∀ ts a, P ts a → f a = ts.flatMap Token.words) (h : Repeated sep P ts r) :
    r.flatMap f = ts.flatMap Token.words := by
  induction h with
  | one h => simpa using hP _ _ h
  | more h _ ih =>
    rw [List.flatMap_cons, List.flatMap_append, List.flatMap_append, hs, List.append_nil, hP _ _ h,
      ih]

theorem wordsOfAll_eq (l : List Symbol) : wordsOfAll l = l.flatMap Symbol.words := by
  induction l with
  | nil => rfl
  | cons s l ih => rw [wordsOfAll, ih, List.flatMap_cons]

theorem wordsOfSequences_eq (l : List (List Symbol)) : wordsOfSequences l = l.flatMap wordsOfAll := by
  induction l with
  | nil => rfl
  | cons q l ih => rw [wordsOfSequences, ih, List.flatMap_cons]

theorem Guard.words {entries : List (List Char)} (h : Guard ts entries) :
    entries = ts.flatMap Token.words := by
  cases h with
  | absent => rfl
  | present h => simp [Token.words, parameters_of_lists h]

theorem Single.words (h : Single ts s) : s.words = ts.flatMap Token.words := by
  cases h with
  | terminal => simp [Symbol.words, Token.words]
  | namedCharacter h => simp [Symbol.words, Token.words, decode_character h]

theorem Plain.words (h : Plain ts s) : s.words = ts.flatMap Token.words := by
  cases h with
  | single h => exact h.words
  | name => rfl

theorem Primary.words (h : Primary ts s) : s.words = ts.flatMap Token.words := by
  cases h with
  | single h => exact h.words
  | name _ ha ho =>
    have hmark : ∀ {vs b}, Mark vs b → vs.flatMap Token.words = [] := by
      rintro _ _ (_ | _) <;> rfl
    rw [Symbol.words, ha.words, List.flatMap_append, hmark ho, List.append_nil, List.flatMap_cons]
    rfl

theorem Choice.words {members : List Symbol} (h : Choice ts members) :
    wordsOfAll members = ts.flatMap Token.words := by
  rw [wordsOfAll_eq]
  exact Repeated.words rfl (fun _ _ h => h.words) h

theorem Exclusion.words {es : List Symbol} (h : Exclusion ts es) :
    wordsOfAll es = ts.flatMap Token.words := by
  cases h with
  | choice h => exact h.words
  | oneOf h => rw [h.words]; rfl

theorem Forbidding.words (h : Forbidding ts s) : s.words = ts.flatMap Token.words := by
  obtain ⟨h⟩ := h
  simp [Symbol.words, h.words, Token.words, Kind.token]

theorem Part.words (h : Part ts s) : s.words = ts.flatMap Token.words := by
  cases h with
  | single h => exact h.words
  | forbidding h => exact h.words

theorem Comparands.words {operands : List (List Symbol)} (h : Comparands ts operands) :
    wordsOfSequences operands = ts.flatMap Token.words := by
  have hparts : ∀ ts parts, Repeated [] Part ts parts → wordsOfAll parts = ts.flatMap Token.words := by
    intro ts parts h
    rw [wordsOfAll_eq]
    exact h.words rfl fun _ _ h => h.words
  rw [wordsOfSequences_eq]
  cases h with
  | bare h => simpa using hparts _ _ h
  | braced h => simp [h.words rfl hparts, Token.words, Kind.token]
  | name h => rfl

theorem Item.words (h : Item ts s) : s.words = ts.flatMap Token.words := by
  cases h with
  | primary h => exact h.words
  | butNot h he => simp [Symbol.words, h.words, he.words, Token.words, Kind.token]
  | lookahead _ h => simp [Symbol.words, h.words, Token.words, Kind.token]
  | forbidding h => exact h.words
  | empty => rfl

theorem Labelling.words {label : Option (List Char)} (h : Labelling ts label) :
    label.toList = ts.flatMap Token.words := by
  cases h <;> rfl

/-- Nothing is dropped, doubled or reordered on the way from the tokens to the alternative. -/
theorem Derives.words {a : Alternative} (h : Derives ts a) :
    a.words = ts.flatMap Token.words := by
  cases h with
  | items hg hi hl =>
    have hitems := hi.words (f := Symbol.words) rfl fun _ _ h => h.words
    simp only [Alternative.words, wordsOfAll_eq, List.flatMap_append, hitems, hl.words, ← hg.words]
  | prose hg hp hl =>
    simp only [Alternative.words, List.flatMap_append, hl.words, ← hg.words]
    rfl

end SpecGrammar.Notation
