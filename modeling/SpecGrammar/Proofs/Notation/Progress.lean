import SpecGrammar.Proofs.Notation.Rule

/-!
# What a reader of alternatives has read

Every state of a reader of alternatives stands for a beginning of a derivation: `Underway us place`
says so of the item that the reader is in, and `Progress ts r` of the whole state.

* `Underway.within`, `Progress.read`: what one token preserves;
* `Progress.reads`: what any number of tokens preserve, from the first state on;
* `Progress.finish`: a state in which the text may end stands for a whole derivation.
-/

namespace SpecGrammar.Notation

/-! ### Beginnings of derivations -/

/-- Things read so far, with a separator after each of them. -/
inductive Pending {α : Type} (sep : List Token) (P : List Token → α → Prop) :
    List Token → List α → Prop
  | none : Pending sep P [] []
  | some {ts : List Token} {r : List α} (h : Repeated sep P ts r) : Pending sep P (ts ++ sep) r

theorem Pending.add {α : Type} {sep ts us : List Token} {P : List Token → α → Prop} {a : α}
    {r : List α} (h : Pending sep P ts r) (ha : P us a) : Repeated sep P (ts ++ us) (r ++ [a]) := by
  cases h with
  | none => exact .one ha
  | some h => exact h.concat ha

/-- Exclusions read so far, before the next one. -/
inductive Excluding : List Token → List Symbol → Prop
  | choice {ts : List Token} {es : List Symbol} (h : Choice ts es) :
      Excluding (ts ++ [Kind.or.token]) es
  | oneOf {ts : List Token} {es : List Symbol} (h : Pending [Kind.or.token] Plain ts es) :
      Excluding (Kind.one.token :: Kind.of.token :: ts) es

/-- The operands before the one being read. -/
inductive Before : List Token → Bool → List (List Symbol) → Prop
  | bare : Before [] false []
  | braced {ts : List Token} {complete : List (List Symbol)}
      (h : Pending [Kind.comma.token] (Repeated [] Part) ts complete) :
      Before (Kind.leftBrace.token :: ts) true complete

/-- The opening of a lookahead restriction, up to its comparison. -/
def comparing (text : List Char) : List Token :=
  [Kind.leftBracket.token, Kind.lookahead.token, ⟨.operator, text⟩]

/-- A lookahead restriction up to the parts read of an operand. -/
inductive Comparing : List Token → Operands → Prop
  | mk {text op : List Char} {us ts : List Token} {braced : Bool} {complete : List (List Symbol)}
      {current : List Symbol} (ho : (text, op) ∈ comparisons) (hb : Before us braced complete)
      (hc : Pending [] Part ts current) :
      Comparing (comparing text ++ us ++ ts) ⟨op, braced, complete, current⟩

/-- What stands before a set of symbols that may not stand here. -/
inductive Within : List Token → Option Operands → Prop
  | item : Within [] none
  | operand {ts : List Token} {o : Operands} (h : Comparing ts o) : Within ts (some o)

/-- The item that a reader is in, up to the place where it stands. -/
inductive Underway : List Token → Place → Prop
  | name {n : List Char} (h : Name n) : Underway [⟨.nonterminal, n⟩] (.name n)
  | arguments {n text : List Char} {args : List (List Char)} (h : Name n) (ha : Lists text args) :
      Underway [⟨.nonterminal, n⟩, ⟨.params, text⟩] (.arguments n args)
  | optional {n : List Char} {us : List Token} {args : List (List Char)} (h : Name n)
      (ha : Guard us args) :
      Underway (⟨.nonterminal, n⟩ :: us ++ [Kind.question.token]) (.optional n args)
  | single {ts : List Token} {s : Symbol} (h : Single ts s) : Underway ts (.single s)
  | closed {ts : List Token} {s : Symbol} (h : Item ts s) : Underway ts (.closed s)
  | but {ts : List Token} {left : Symbol} (h : Primary ts left) :
      Underway (ts ++ [Kind.but.token]) (.but left)
  | butNot {ts : List Token} {left : Symbol} (h : Primary ts left) :
      Underway (ts ++ [Kind.but.token, Kind.not.token]) (.butNot left)
  | butNotOne {ts : List Token} {left : Symbol} (h : Primary ts left) :
      Underway (ts ++ [Kind.but.token, Kind.not.token] ++ [Kind.one.token]) (.butNotOne left)
  | excluding {ts us : List Token} {left : Symbol} {es : List Symbol} (h : Primary ts left)
      (he : Excluding us es) :
      Underway (ts ++ [Kind.but.token, Kind.not.token] ++ us) (.excluding left es)
  | excluded {ts us : List Token} {left : Symbol} {es : List Symbol} (h : Primary ts left)
      (he : Exclusion us es) :
      Underway (ts ++ [Kind.but.token, Kind.not.token] ++ us) (.excluded left es)
  | opened : Underway [Kind.leftBracket.token] .opened
  | openedEmpty : Underway [Kind.leftBracket.token, Kind.empty.token] .openedEmpty
  | openedLookahead : Underway [Kind.leftBracket.token, Kind.lookahead.token] .openedLookahead
  | operator {text op : List Char} (ho : (text, op) ∈ comparisons) :
      Underway (comparing text) (.operator op)
  | operandName {text op n : List Char} (ho : (text, op) ∈ comparisons) (h : Name n) :
      Underway (comparing text ++ [⟨.nonterminal, n⟩]) (.operandName op n)
  | operandStart {text op : List Char} {us : List Token} {complete : List (List Symbol)}
      (ho : (text, op) ∈ comparisons) (hb : Before us true complete) :
      Underway (comparing text ++ us) (.operandStart op complete)
  | operand {ts : List Token} {o : Operands} (h : Comparing ts o) (hne : o.current ≠ []) :
      Underway ts (.operand o)
  | operandOpened {ts : List Token} {o : Operands} (h : Comparing ts o) :
      Underway (ts ++ [Kind.leftBracket.token]) (.operandOpened o)
  | braceClosed {text op : List Char} {ts : List Token} {operands : List (List Symbol)}
      (ho : (text, op) ∈ comparisons)
      (h : Repeated [Kind.comma.token] (Repeated [] Part) ts operands) :
      Underway (comparing text ++ (Kind.leftBrace.token :: ts ++ [Kind.rightBrace.token]))
        (.braceClosed op operands)
  | forbidding {ts us : List Token} {within : Option Operands} {members : List Symbol}
      (h : Within ts within) (hm : Pending [Kind.or.token] Plain us members) :
      Underway (ts ++ ([Kind.leftBracket.token, Kind.no.token] ++ us)) (.forbidding within members)
  | forbidden {ts us : List Token} {within : Option Operands} {members : List Symbol}
      (h : Within ts within) (hm : Choice us members) :
      Underway (ts ++ ([Kind.leftBracket.token, Kind.no.token] ++ us)) (.forbidden within members)
  | forbiddenHere {ts us : List Token} {within : Option Operands} {members : List Symbol}
      (h : Within ts within) (hm : Choice us members) :
      Underway (ts ++ ([Kind.leftBracket.token, Kind.no.token] ++ us ++ [Kind.here.token]))
        (.forbiddenHere within members)

/-- The tokens are the beginning of a derivation for which a state stands. -/
inductive Progress : List Token → Reading → Prop
  | start : Progress [] {}
  | guarded {text : List Char} {constraints : List (List Char)} (h : Lists text constraints) :
      Progress [⟨.params, text⟩] ⟨constraints, [], .guarded⟩
  | prose {gs : List Token} {text : List Char} {constraints : List (List Char)}
      (hg : Guard gs constraints) (h : Lexeme .prose text) :
      Progress (gs ++ [⟨.prose, text⟩]) ⟨constraints, [], .prose text⟩
  | item {gs ts us : List Token} {constraints : List (List Char)} {before : List Symbol}
      {place : Place} (hg : Guard gs constraints) (hb : Pending [] Item ts before)
      (hu : Underway us place) : Progress (gs ++ ts ++ us) ⟨constraints, before, place⟩
  | labelled {ts : List Token} {constraints : List (List Char)} {symbols : List Symbol}
      {label : List Char} (h : ∀ source, Derives ts ⟨source, constraints, symbols, some label⟩) :
      Progress ts ⟨constraints, symbols, .labelled label⟩

variable {t : Token} {ts us : List Token} {p p' : Place} {s : Symbol} {o : Operands}

/-! ### Single tokens -/

theorem Token.eq_token {kind : Kind} (hl : Lexeme t.kind t.text) (hk : t.kind = kind)
    (hw : kind.word?.isSome = true) : t = kind.token := by
  obtain ⟨k, text⟩ := t
  obtain rfl : k = kind := hk
  cases hl with
  | word h => simp [Kind.token, h]
  | _ => simp [Kind.word?] at hw

/-- Where one kind of token alone goes on, and that kind is a word or a mark, there is one such token. -/
theorem Token.eq_token_of_ite {α : Type} {kind : Kind} {x y : α} (hl : Lexeme t.kind t.text)
    (h : (if t.kind = kind then some x else none) = some y) (hw : kind.word?.isSome = true) :
    t = kind.token ∧ x = y := by
  obtain ⟨hk, hxy⟩ := Option.ite_none_right_eq_some.1 h
  exact ⟨Token.eq_token hl hk hw, Option.some.inj hxy⟩

theorem Name.of_lexeme {text : List Char} (h : Lexeme .nonterminal text) : Name text := by
  cases h with
  | nonterminal h => exact h
  | word h => simp [Kind.word?] at h

theorem Lists.of_lexeme {text : List Char} (h : Lexeme .params text) :
    Lists text (parameters text) := by
  cases h with
  | params h => rwa [parameters_of_lists h]
  | word h => simp [Kind.word?] at h

theorem mem_comparisons_of_lexeme {text : List Char} (h : Lexeme .operator text) :
    (text, Reference.decode text) ∈ comparisons := by
  cases h with
  | operator h => rwa [decode_comparison h]
  | word h => simp [Kind.word?] at h

theorem Labelling.of_lexeme {text : List Char} (h : Lexeme .label text) :
    Labelling [⟨.label, text⟩] (some (text.drop 1)) := by
  cases h with
  | label h => exact .present h
  | word h => simp [Kind.word?] at h

/-- A token that is no nonterminal and stands for a symbol is a literal or the name of a character. -/
theorem Single.of_operandSymbol? (hl : Lexeme t.kind t.text) (h : t.operandSymbol? = some s) :
    Single [t] s := by
  obtain ⟨kind, text⟩ := t
  cases hl with
  | @terminal text hl =>
    have hs : Symbol.terminal (text ++ ['`']).dropLast = s := Option.some.inj h
    rw [List.dropLast_concat] at hs
    exact hs ▸ .terminal hl
  | namedCharacter hl =>
    obtain rfl : _ = s := Option.some.inj h
    rw [decode_character hl]
    exact .namedCharacter hl
  | word hl => cases kind <;> simp [Kind.word?, Token.operandSymbol?] at hl h
  | _ => simp [Token.operandSymbol?] at h

theorem Plain.of_symbol? (hl : Lexeme t.kind t.text) (h : t.symbol? = some s) : Plain [t] s := by
  by_cases hk : t.kind = .nonterminal
  · obtain ⟨kind, text⟩ := t
    obtain rfl : kind = .nonterminal := hk
    obtain rfl : _ = s := Option.some.inj h
    exact .name (.of_lexeme hl)
  · refine .single (.of_operandSymbol? hl ?_)
    obtain ⟨kind, text⟩ := t
    cases kind <;> simp_all [Token.symbol?, Token.operandSymbol?]

/-! ### One token within an item -/

/-- An item that is complete where a reader stands is derived from its tokens. -/
theorem Underway.item (h : Underway us p) (hs : p.item? = some s) : Item us s := by
  cases h with
  | name h =>
    obtain rfl := Option.some.inj hs
    exact .primary (.name h .absent .absent)
  | arguments h ha =>
    obtain rfl := Option.some.inj hs
    exact .primary (.name h (.present ha) .absent)
  | optional h ha =>
    obtain rfl := Option.some.inj hs
    exact .primary (.name h ha .present)
  | single h =>
    obtain rfl := Option.some.inj hs
    exact .primary (.single h)
  | closed h =>
    obtain rfl := Option.some.inj hs
    exact h
  | excluded h he =>
    obtain rfl := Option.some.inj hs
    exact .butNot h he
  | _ => simp [Place.item?] at hs

/-- So is the left side of `but not`. -/
theorem Underway.left (h : Underway us p) (hs : p.left? = some s) : Primary us s := by
  cases h with
  | name h =>
    obtain rfl := Option.some.inj hs
    exact .name h .absent .absent
  | arguments h ha =>
    obtain rfl := Option.some.inj hs
    exact .name h (.present ha) .absent
  | optional h ha =>
    obtain rfl := Option.some.inj hs
    exact .name h ha .present
  | single h =>
    obtain rfl := Option.some.inj hs
    exact .single h
  | _ => simp [Place.left?] at hs

theorem Underway.opening (hl : Lexeme t.kind t.text) (hp : Place.ofOpening? t = some p) :
    Underway [t] p := by
  obtain ⟨kind, text⟩ := t
  cases kind with
  | nonterminal =>
    obtain rfl := Option.some.inj hp
    exact .name (.of_lexeme hl)
  | leftBracket =>
    obtain rfl := Option.some.inj hp
    rw [Token.eq_token hl rfl rfl]
    exact .opened
  | terminal | namedCharacter =>
    simp only [Place.ofOpening?, Option.map_eq_some_iff] at hp
    obtain ⟨s, hs, rfl⟩ := hp
    exact .single (.of_operandSymbol? hl hs)
  | _ => simp [Place.ofOpening?] at hp

/-- The parts read of an operand with one more. -/
theorem Comparing.add (h : Comparing ts o) (hs : Part us s) : Comparing (ts ++ us) (o.add s) := by
  obtain ⟨ho, hb, hc⟩ := h
  have := Comparing.mk ho hb (.some (hc.add hs))
  rwa [List.append_nil, ← List.append_assoc] at this

theorem Operands.add_current_ne_nil (o : Operands) (s : Symbol) : (o.add s).current ≠ [] := by
  simp [Operands.add]

/-- The operand being read, if it has a part, ends the list of operands. -/
theorem Comparing.split (h : Comparing ts o) (hne : o.current ≠ []) :
    ∃ text us vs, (text, o.operator) ∈ comparisons ∧ ts = comparing text ++ us ++ vs ∧
      Before us o.braced o.complete ∧ Repeated [] Part vs o.current := by
  obtain ⟨ho, hb, hc⟩ := h
  cases hc with
  | none => exact absurd rfl hne
  | @some vs r h => exact ⟨_, _, vs, ho, by rw [List.append_nil], hb, h⟩

/-- A token after a part of an operand. -/
theorem Underway.after (h : Comparing ts o) (hne : o.current ≠ []) (hl : Lexeme t.kind t.text)
    (hp : o.after? t = some p) : Underway (ts ++ [t]) p := by
  obtain ⟨text, us, vs, ho, rfl, hb, hc⟩ := h.split hne
  unfold Operands.after? at hp
  split at hp
  case h_1 _ _ heq =>
    obtain rfl := Option.some.inj hp
    rw [Token.eq_token hl heq rfl]
    exact .operandOpened h
  case h_2 heq hbraced =>
    obtain rfl := Option.some.inj hp
    rw [Token.eq_token hl heq rfl]
    rw [hbraced] at hb
    cases hb with
    | braced hpend =>
      have := Underway.operandStart ho (.braced (.some (hpend.add hc)))
      simpa only [List.append_assoc, List.cons_append, Operands.all] using this
  case h_3 heq hbraced =>
    obtain rfl := Option.some.inj hp
    rw [Token.eq_token hl heq rfl]
    rw [hbraced] at hb
    cases hb with
    | braced hpend =>
      have := Underway.braceClosed ho (hpend.add hc)
      simpa only [List.append_assoc, List.cons_append, Operands.all] using this
  case h_4 heq hbraced =>
    obtain rfl := Option.some.inj hp
    rw [Token.eq_token hl heq rfl]
    rw [hbraced] at hb
    cases hcomplete : o.complete with
    | nil =>
      rw [hcomplete] at hb
      cases hb
      have := Item.lookahead ho (.bare hc)
      rw [Operands.restriction, Operands.all, hcomplete]
      simpa only [comparing, List.append_nil, List.nil_append] using Underway.closed this
    | cons => rw [hcomplete] at hb; cases hb
  case h_5 =>
    obtain ⟨s, hs, rfl⟩ := Option.map_eq_some_iff.1 hp
    exact .operand (h.add (.single (.of_operandSymbol? hl hs))) (o.add_current_ne_nil s)

/-- The first token of an operand, where it is a symbol of its own. -/
theorem Underway.firstPart {text op : List Char} {braced : Bool} {complete : List (List Symbol)}
    (ho : (text, op) ∈ comparisons) (hb : Before us braced complete) (hl : Lexeme t.kind t.text)
    (hs : t.operandSymbol? = some s) :
    Underway (comparing text ++ us ++ [t]) (.operand ⟨op, braced, complete, [s]⟩) := by
  have := Comparing.mk ho hb (.some (.one (.single (Single.of_operandSymbol? hl hs))))
  simpa only [List.append_nil] using Underway.operand this (by simp)

/-- The first token of an operand, where it is the opening bracket of a set. -/
theorem Underway.firstBracket {text op : List Char} {braced : Bool} {complete : List (List Symbol)}
    (ho : (text, op) ∈ comparisons) (hb : Before us braced complete) :
    Underway (comparing text ++ us ++ [Kind.leftBracket.token])
      (.operandOpened ⟨op, braced, complete, []⟩) := by
  have := Underway.operandOpened (.mk ho hb .none)
  rwa [List.append_nil] at this

/-- One more exclusion after those read. -/
theorem Excluding.add {es : List Symbol} (h : Excluding ts es) (hs : Plain us s) :
    Exclusion (ts ++ us) (es ++ [s]) := by
  cases h with
  | choice h => exact .choice (h.concat hs)
  | oneOf h => exact .oneOf (h.add hs)

/-- Exclusions with `or` after them. -/
theorem Exclusion.more {es : List Symbol} (h : Exclusion ts es) :
    Excluding (ts ++ [Kind.or.token]) es := by
  cases h with
  | choice h => exact .choice h
  | oneOf h => exact .oneOf (.some h)

/-- The closing bracket of a set of symbols makes an item of it, or a part of the operand around it. -/
theorem Within.close {within : Option Operands} {members : List Symbol} (hm : Choice us members)
    (hp : (match within with
      | none => some (.closed (.noSymbolHere members))
      | some operands => some (.operand (operands.add (.noSymbolHere members)))) = some p)
    (h : Within ts within) :
    Underway (ts ++ ([Kind.leftBracket.token, Kind.no.token] ++ us ++
      [Kind.here.token, Kind.rightBracket.token])) p := by
  have hset := Forbidding.mk hm
  cases h with
  | item =>
    obtain rfl := Option.some.inj hp
    exact .closed (.forbidding hset)
  | @operand ts o h =>
    obtain rfl := Option.some.inj hp
    exact .operand (h.add (.forbidding hset)) (o.add_current_ne_nil _)

/-- A token goes on with the item that a reader is in. -/
theorem Underway.within (h : Underway us p) (hl : Lexeme t.kind t.text)
    (hp : p.within? t = some p') : Underway (us ++ [t]) p' := by
  cases h with
  | name h =>
    simp only [Place.within?] at hp
    split at hp
    case h_1 heq =>
      obtain rfl := Option.some.inj hp
      obtain ⟨k, text⟩ := t
      obtain rfl : k = .params := heq
      exact .arguments h (.of_lexeme hl)
    case h_2 heq =>
      obtain rfl := Option.some.inj hp
      rw [Token.eq_token hl heq rfl]
      exact .optional h .absent
    case h_3 => exact absurd hp (by simp)
  | arguments h ha =>
    obtain ⟨rfl, rfl⟩ := Token.eq_token_of_ite hl hp rfl
    exact .optional h (.present ha)
  | but h =>
    obtain ⟨rfl, rfl⟩ := Token.eq_token_of_ite hl hp rfl
    rw [List.append_assoc]
    exact .butNot h
  | butNot h =>
    simp only [Place.within?] at hp
    split at hp
    case isTrue heq =>
      obtain rfl := Option.some.inj hp
      rw [Token.eq_token hl heq rfl]
      exact .butNotOne h
    case isFalse =>
      obtain ⟨s, hs, rfl⟩ := Option.map_eq_some_iff.1 hp
      exact .excluded h (.choice (.one (.of_symbol? hl hs)))
  | butNotOne h =>
    obtain ⟨rfl, rfl⟩ := Token.eq_token_of_ite hl hp rfl
    rw [List.append_assoc]
    exact .excluding h (.oneOf .none)
  | excluding h he =>
    obtain ⟨s, hs, rfl⟩ := Option.map_eq_some_iff.1 hp
    rw [List.append_assoc]
    exact .excluded h (he.add (.of_symbol? hl hs))
  | excluded h he =>
    obtain ⟨rfl, rfl⟩ := Token.eq_token_of_ite hl hp rfl
    rw [List.append_assoc]
    exact .excluding h he.more
  | opened =>
    simp only [Place.within?] at hp
    split at hp
    case h_1 heq =>
      obtain rfl := Option.some.inj hp
      rw [Token.eq_token hl heq rfl]
      exact .openedEmpty
    case h_2 heq =>
      obtain rfl := Option.some.inj hp
      rw [Token.eq_token hl heq rfl]
      exact .openedLookahead
    case h_3 heq =>
      obtain rfl := Option.some.inj hp
      rw [Token.eq_token hl heq rfl]
      exact .forbidding .item .none
    case h_4 => exact absurd hp (by simp)
  | openedEmpty =>
    obtain ⟨rfl, rfl⟩ := Token.eq_token_of_ite hl hp rfl
    exact .closed .empty
  | openedLookahead =>
    simp only [Place.within?, Option.ite_none_right_eq_some, Option.some.injEq] at hp
    obtain ⟨heq, rfl⟩ := hp
    obtain ⟨k, text⟩ := t
    obtain rfl : k = .operator := heq
    exact .operator (mem_comparisons_of_lexeme hl)
  | @operator text op ho =>
    rw [← List.append_nil (comparing text)]
    simp only [Place.within?] at hp
    split at hp
    case h_1 heq =>
      obtain rfl := Option.some.inj hp
      obtain ⟨k, name⟩ := t
      obtain rfl : k = .nonterminal := heq
      rw [List.append_nil]
      exact .operandName ho (.of_lexeme hl)
    case h_2 heq =>
      obtain rfl := Option.some.inj hp
      rw [Token.eq_token hl heq rfl, List.append_nil]
      exact .operandStart ho (.braced .none)
    case h_3 heq =>
      obtain rfl := Option.some.inj hp
      rw [Token.eq_token hl heq rfl]
      exact .firstBracket ho .bare
    case h_4 =>
      obtain ⟨s, hs, rfl⟩ := Option.map_eq_some_iff.1 hp
      exact .firstPart ho .bare hl hs
  | operandName ho h =>
    obtain ⟨rfl, rfl⟩ := Token.eq_token_of_ite hl hp rfl
    exact .closed (.lookahead ho (.name h))
  | operandStart ho hb =>
    simp only [Place.within?] at hp
    split at hp
    case isTrue heq =>
      obtain rfl := Option.some.inj hp
      rw [Token.eq_token hl heq rfl]
      exact .firstBracket ho hb
    case isFalse =>
      obtain ⟨s, hs, rfl⟩ := Option.map_eq_some_iff.1 hp
      exact .firstPart ho hb hl hs
  | operand h hne => exact .after h hne hl hp
  | operandOpened h =>
    obtain ⟨rfl, rfl⟩ := Token.eq_token_of_ite hl hp rfl
    rw [List.append_assoc]
    exact .forbidding (.operand h) .none
  | braceClosed ho h =>
    obtain ⟨rfl, rfl⟩ := Token.eq_token_of_ite hl hp rfl
    exact .closed (.lookahead ho (.braced h))
  | forbidding h hm =>
    obtain ⟨s, hs, rfl⟩ := Option.map_eq_some_iff.1 hp
    rw [List.append_assoc, List.append_assoc]
    exact .forbidden h (hm.add (.of_symbol? hl hs))
  | forbidden h hm =>
    simp only [Place.within?] at hp
    rw [List.append_assoc, List.append_assoc]
    split at hp
    case h_1 heq =>
      obtain rfl := Option.some.inj hp
      rw [Token.eq_token hl heq rfl]
      exact .forbidding h (.some hm)
    case h_2 heq =>
      obtain rfl := Option.some.inj hp
      rw [Token.eq_token hl heq rfl, ← List.append_assoc _ _ [Kind.here.token]]
      exact .forbiddenHere h hm
    case h_3 => exact absurd hp (by simp)
  | forbiddenHere h hm =>
    simp only [Place.within?, Option.ite_none_right_eq_some] at hp
    rw [Token.eq_token hl hp.1 rfl, List.append_assoc, List.append_assoc _ _ [_]]
    exact h.close hm hp.2
  | _ => simp [Place.within?] at hp

/-! ### One token of an alternative -/

variable {r r' : Reading}

/-- What a token can make of a state that stands within an item or after it. -/
theorem Reading.read?_cases (h : r.read? t = some r') (hstart : r.place ≠ .start)
    (hguarded : r.place ≠ .guarded) (hprose : ∀ text, r.place ≠ .prose text) :
    (t.kind = .label ∧ ∃ s, r.place.item? = some s ∧
      r' = { r with before := r.before ++ [s], place := .labelled (t.text.drop 1) }) ∨
    (t.kind = .but ∧ ∃ s, r.place.left? = some s ∧ r' = { r with place := .but s }) ∨
    (∃ p, r.place.within? t = some p ∧ r' = { r with place := p }) ∨
    ∃ s p, r.place.item? = some s ∧ Place.ofOpening? t = some p ∧
      r' = { r with before := r.before ++ [s], place := p } := by
  unfold Reading.read? at h
  split at h
  case h_7 hk _ _ _ =>
    obtain ⟨s, hs, rfl⟩ := Option.map_eq_some_iff.1 h
    exact .inl ⟨hk, s, hs, rfl⟩
  case h_8 hk _ _ =>
    obtain ⟨s, hs, rfl⟩ := Option.map_eq_some_iff.1 h
    exact .inr (.inl ⟨hk, s, hs, rfl⟩)
  case h_9 =>
    split at h
    case h_1 p hp =>
      obtain rfl := Option.some.inj h
      exact .inr (.inr (.inl ⟨p, hp, rfl⟩))
    case h_2 =>
      obtain ⟨s, hs, h⟩ := Option.bind_eq_some_iff.1 h
      obtain ⟨p, hp, h⟩ := Option.bind_eq_some_iff.1 h
      obtain rfl := Option.some.inj h
      exact .inr (.inr (.inr ⟨s, p, hs, hp, rfl⟩))
  all_goals simp_all

/-- A state after the opening of an alternative, which the token that opens an item leads on from. -/
theorem Progress.opening {constraints : List (List Char)} (hg : Guard ts constraints)
    (hl : Lexeme t.kind t.text) (hp : Place.ofOpening? t = some p) :
    Progress (ts ++ [t]) ⟨constraints, [], p⟩ := by
  have := Progress.item hg .none (.opening hl hp)
  rwa [List.append_nil] at this

/-- One token goes on with the derivation that a state stands for. -/
theorem Progress.read (h : Progress ts r) (hl : Lexeme t.kind t.text)
    (hr : r.read? t = some r') : Progress (ts ++ [t]) r' := by
  cases h with
  | start =>
    obtain ⟨kind, text⟩ := t
    cases kind with
    | params =>
      obtain rfl := Option.some.inj hr
      exact .guarded (.of_lexeme hl)
    | prose =>
      obtain rfl := Option.some.inj hr
      exact .prose .absent hl
    | _ =>
      simp only [Reading.read?, Option.map_eq_some_iff] at hr
      obtain ⟨p, hp, rfl⟩ := hr
      exact .opening .absent hl hp
  | guarded hlist =>
    obtain ⟨kind, text⟩ := t
    cases kind with
    | prose =>
      obtain rfl := Option.some.inj hr
      exact .prose (.present hlist) hl
    | _ =>
      simp only [Reading.read?, Option.map_eq_some_iff] at hr
      obtain ⟨p, hp, rfl⟩ := hr
      exact .opening (.present hlist) hl hp
  | prose hg hprose =>
    obtain ⟨kind, text⟩ := t
    cases kind with
    | label =>
      obtain rfl := Option.some.inj hr
      exact .labelled fun _ => .prose hg hprose (.of_lexeme hl)
    | _ => simp [Reading.read?, Place.item?, Place.left?, Place.within?] at hr
  | @item gs ts us constraints before place hg hb hu =>
    rcases Reading.read?_cases hr (by rintro ⟨⟩; cases hu) (by rintro ⟨⟩; cases hu)
        (by rintro text ⟨⟩; cases hu) with
      ⟨hk, s, hs, rfl⟩ | ⟨hk, s, hs, rfl⟩ | ⟨p, hp, rfl⟩ | ⟨s, p, hs, hp, rfl⟩
    · obtain ⟨kind, text⟩ := t
      obtain rfl : kind = .label := hk
      refine .labelled fun source => ?_
      have : Derives _ ⟨source, _, _, _⟩ := .items hg (hb.add (hu.item hs)) (.of_lexeme hl)
      simpa only [List.append_assoc] using this
    · rw [Token.eq_token hl hk rfl, List.append_assoc]
      exact .item hg hb (.but (hu.left hs))
    · rw [List.append_assoc]
      exact .item hg hb (hu.within hl hp)
    · have := Progress.item hg (.some (hb.add (hu.item hs))) (.opening hl hp)
      simpa only [List.append_assoc, List.append_nil, List.nil_append] using this
  | labelled =>
    rcases Reading.read?_cases hr (by simp) (by simp) (by simp) with
      ⟨-, s, hs, -⟩ | ⟨-, s, hs, -⟩ | ⟨p, hp, -⟩ | ⟨s, p, hs, -, -⟩
    · exact absurd hs (by simp [Place.item?])
    · exact absurd hs (by simp [Place.left?])
    · exact absurd hp (by simp [Place.within?])
    · exact absurd hs (by simp [Place.item?])

/-- Any number of tokens go on with the derivation that a state stands for. -/
theorem Progress.reads (h : Progress ts r) (hl : Lexical us)
    (hr : us.foldlM Reading.read? r = some r') : Progress (ts ++ us) r' := by
  induction us generalizing ts r with
  | nil =>
    obtain rfl := Option.some.inj hr
    rwa [List.append_nil]
  | cons t us ih =>
    rw [List.foldlM_cons] at hr
    obtain ⟨q, hq, hr⟩ := Option.bind_eq_some_iff.1 hr
    have := ih (h.read (hl t (by simp)) hq) (fun u hu => hl u (by simp [hu])) hr
    rwa [List.append_assoc] at this

/-- Where the text may end, the derivation is whole. -/
theorem Progress.finish {source : List Char} {a : Alternative} (h : Progress ts r)
    (ha : r.finish? source = some a) : a.source = source ∧ Derives ts a := by
  cases h with
  | start => simp [Reading.finish?, Place.item?] at ha
  | guarded => simp [Reading.finish?, Place.item?] at ha
  | prose hg h =>
    obtain rfl := Option.some.inj ha
    refine ⟨rfl, ?_⟩
    have : Derives _ ⟨source, _, _, _⟩ := .prose hg h .absent
    rwa [List.append_nil] at this
  | @item _ _ _ constraints before place hg hb hu =>
    have hend : (place.item?.map fun s => ⟨source, constraints, before ++ [s], none⟩) = some a := by
      cases hu <;> exact ha
    obtain ⟨s, hs, rfl⟩ := Option.map_eq_some_iff.1 hend
    refine ⟨rfl, ?_⟩
    have : Derives _ ⟨source, _, _, _⟩ := .items hg (hb.add (hu.item hs)) .absent
    simpa only [List.append_assoc, List.append_nil] using this
  | labelled h =>
    obtain rfl := Option.some.inj ha
    exact ⟨rfl, h source⟩

end SpecGrammar.Notation
