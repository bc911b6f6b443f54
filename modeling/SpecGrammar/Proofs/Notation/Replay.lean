import SpecGrammar.Proofs.Notation.Rule

/-!
# Derivations lead a reader through an alternative

The tokens of a derivation are accepted one after the other, and what the reader has at the end is what
the derivation says.

* `Item.leads`: from a state in which an item may open to one in which it is complete;
* `Derives.leads`: from the first state to one in which the text may end.
-/

namespace SpecGrammar.Notation

variable {t : Token} {ts us : List Token} {p p' q : Place} {s : Symbol} {o : Operands}

/-! ### Within an item -/

/-- Tokens that stay within an item lead from one place to another. -/
def Place.Leads (p : Place) (ts : List Token) (p' : Place) : Prop :=
  ts.foldlM Place.within? p = some p'

theorem Place.Leads.nil (p : Place) : p.Leads [] p := rfl

theorem Place.Leads.cons (h : p.within? t = some p') (h' : p'.Leads ts q) : p.Leads (t :: ts) q := by
  rw [Place.Leads, List.foldlM_cons, h]
  exact h'

theorem Place.Leads.single (h : p.within? t = some p') : p.Leads [t] p' := .cons h (.nil p')

theorem Place.Leads.append (h : p.Leads ts p') (h' : p'.Leads us q) : p.Leads (ts ++ us) q := by
  rw [Place.Leads, List.foldlM_append, h]
  exact h'

theorem Single.eq_singleton (h : Single ts s) :
    ∃ t, ts = [t] ∧ t.symbol? = some s ∧ t.operandSymbol? = some s ∧
      Place.ofOpening? t = some (.single s) := by
  have key : ∀ t : Token, t.kind = .terminal ∨ t.kind = .namedCharacter → t.symbol? = some s →
      t.operandSymbol? = some s ∧ Place.ofOpening? t = some (.single s) := by
    rintro t (hk | hk) hs <;> simp [Token.operandSymbol?, Place.ofOpening?, hk, hs]
  cases h with
  | terminal h =>
    refine ⟨_, rfl, ?_, key _ (.inl rfl) ?_⟩ <;> simp [Token.symbol?]
  | namedCharacter h =>
    refine ⟨_, rfl, ?_, key _ (.inr rfl) ?_⟩ <;> simp [Token.symbol?, decode_character h]

theorem Plain.eq_singleton (h : Plain ts s) : ∃ t, ts = [t] ∧ t.symbol? = some s := by
  cases h with
  | single h =>
    obtain ⟨t, ht, hs, -⟩ := h.eq_singleton
    exact ⟨t, ht, hs⟩
  | name h => exact ⟨_, rfl, rfl⟩

/-- Plain symbols with `or` between them lead from a place that takes one to the place after it, if `or`
leads back. -/
theorem Choice.leads (before after : List Symbol → Place)
    (hplain : ∀ t s pre, t.symbol? = some s → (before pre).within? t = some (after (pre ++ [s])))
    (hor : ∀ pre, (after pre).within? Kind.or.token = some (before pre)) {r : List Symbol}
    (h : Choice ts r) : ∀ pre, (before pre).Leads ts (after (pre ++ r)) := by
  induction h with
  | one h =>
    obtain ⟨t, rfl, hs⟩ := h.eq_singleton
    exact fun pre => .single (hplain t _ pre hs)
  | @more _ us a r h _ ih =>
    obtain ⟨t, rfl, hs⟩ := h.eq_singleton
    intro pre
    rw [List.append_assoc, List.append_cons pre a r]
    exact (Place.Leads.single (hplain t _ pre hs)).append
      ((Place.Leads.single (hor _)).append (ih (pre ++ [a])))

theorem Choice.leads_forbidden {members : List Symbol} (h : Choice ts members)
    (within : Option Operands) : (Place.forbidding within []).Leads ts (.forbidden within members) := by
  refine Choice.leads (.forbidding within) (.forbidden within) ?_ ?_ h []
  · intro t s pre hs
    simp [Place.within?, hs]
  · exact fun _ => rfl

theorem Choice.leads_excluded {es : List Symbol} (h : Choice ts es) (left : Symbol)
    (pre : List Symbol) : (Place.excluding left pre).Leads ts (.excluded left (pre ++ es)) := by
  refine Choice.leads (.excluding left) (.excluded left) ?_ ?_ h pre
  · intro t s pre hs
    simp [Place.within?, hs]
  · exact fun _ => rfl

theorem Token.kind_ne_one (h : t.symbol? = some s) : t.kind ≠ .one := by
  intro hk
  simp [Token.symbol?, hk] at h

theorem Exclusion.leads {es : List Symbol} (h : Exclusion ts es) (left : Symbol) :
    (Place.butNot left).Leads ts (.excluded left es) := by
  have hplain : ∀ t s, t.symbol? = some s →
      (Place.butNot left).within? t = some (.excluded left [s]) := by
    intro t s hs
    simp [Place.within?, hs, Token.kind_ne_one hs]
  cases h with
  | choice h =>
    cases h with
    | one h =>
      obtain ⟨t, rfl, hs⟩ := h.eq_singleton
      exact .single (hplain t _ hs)
    | more h hr =>
      obtain ⟨t, rfl, hs⟩ := h.eq_singleton
      rw [List.append_assoc]
      refine .append (.single (hplain t _ hs)) (.append (.single rfl) ?_)
      exact Choice.leads_excluded hr left _
  | oneOf h => exact .cons rfl (.cons rfl (h.leads_excluded left []))

/-- A place takes parts of an operand, and adds them to the operands. -/
structure Place.Expects (p : Place) (o : Operands) : Prop where
  symbol : ∀ t s, t.operandSymbol? = some s → p.within? t = some (.operand (o.add s))
  bracket : p.within? Kind.leftBracket.token = some (.operandOpened o)

theorem Place.expects_operand (o : Operands) : (Place.operand o).Expects o where
  symbol t s hs := by
    obtain ⟨kind, text⟩ := t
    cases kind <;> simp_all [Place.within?, Operands.after?, Token.operandSymbol?]
  bracket := rfl

theorem Place.expects_operator (op : List Char) : (Place.operator op).Expects ⟨op, false, [], []⟩ where
  symbol t s hs := by
    obtain ⟨kind, text⟩ := t
    cases kind <;> simp_all [Place.within?, Operands.add, Token.operandSymbol?]
  bracket := rfl

theorem Place.expects_operandStart (op : List Char) (complete : List (List Symbol)) :
    (Place.operandStart op complete).Expects ⟨op, true, complete, []⟩ where
  symbol t s hs := by
    obtain ⟨kind, text⟩ := t
    cases kind <;> simp_all [Place.within?, Operands.add, Token.operandSymbol?]
  bracket := rfl

theorem Part.leads (h : Part ts s) (hp : p.Expects o) : p.Leads ts (.operand (o.add s)) := by
  cases h with
  | single h =>
    obtain ⟨t, rfl, -, hs, -⟩ := h.eq_singleton
    exact .single (hp.symbol t s hs)
  | forbidding h =>
    obtain ⟨h⟩ := h
    refine .append (.append (.cons hp.bracket (.single rfl)) (h.leads_forbidden (some o))) ?_
    exact .cons rfl (.single rfl)

theorem Part.leads_all {parts : List Symbol} (h : Repeated [] Part ts parts) :
    ∀ {p : Place} {o : Operands}, p.Expects o → p.Leads ts (.operand { o with current := o.current ++ parts }) := by
  induction h with
  | one h => exact fun hp => h.leads hp
  | @more _ us s r h _ ih =>
    intro p o hp
    have := (h.leads hp).append (ih (Place.expects_operand (o.add s)))
    simpa only [Operands.add, List.append_assoc, List.append_nil, List.nil_append,
      List.singleton_append] using this

/-- Operands between braces lead to the end of the last one. -/
theorem Comparands.leads_braced {sequences : List (List Symbol)} (op : List Char)
    (h : Repeated [Kind.comma.token] (Repeated [] Part) ts sequences) :
    ∀ pre, ∃ o, o.operator = op ∧ o.braced = true ∧ o.all = pre ++ sequences ∧
      (Place.operandStart op pre).Leads ts (.operand o) := by
  induction h with
  | one h => exact fun pre => ⟨_, rfl, rfl, rfl, Part.leads_all h (Place.expects_operandStart op pre)⟩
  | @more _ us parts r h _ ih =>
    intro pre
    obtain ⟨o, ho, hb, hall, hleads⟩ := ih (pre ++ [parts])
    refine ⟨o, ho, hb, by rw [hall, List.append_assoc]; rfl, ?_⟩
    have hfirst := Part.leads_all h (Place.expects_operandStart op pre)
    rw [List.append_assoc]
    exact hfirst.append (.cons rfl hleads)

theorem Comparands.leads {operands : List (List Symbol)} (h : Comparands ts operands)
    (op : List Char) : (Place.operator op).Leads (ts ++ [Kind.rightBracket.token])
      (.closed (.lookahead op operands)) := by
  cases h with
  | bare h => exact (Part.leads_all h (Place.expects_operator op)).append (.single rfl)
  | braced h =>
    obtain ⟨o, rfl, hb, hall, hleads⟩ := leads_braced op h []
    have hclose : (Place.operand o).within? Kind.rightBrace.token =
        some (.braceClosed o.operator o.all) := by
      simp [Place.within?, Operands.after?, hb, Kind.token]
    rw [hall] at hclose
    rw [List.append_assoc]
    exact .cons rfl (hleads.append (.cons hclose (.single rfl)))
  | name h => exact .cons rfl (.single rfl)

theorem Guard.leads {name : List Char} {args : List (List Char)} (h : Guard ts args) :
    (∃ p, (Place.name name).Leads ts p ∧ p.item? = some (.nonterminal name args false) ∧
      p.left? = some (.nonterminal name args false) ∧
      p.within? Kind.question.token = some (.optional name args)) := by
  cases h with
  | absent => exact ⟨_, .nil _, rfl, rfl, rfl⟩
  | present h =>
    refine ⟨.arguments name args, .single ?_, rfl, rfl, rfl⟩
    simp [Place.within?, parameters_of_lists h]

/-! ### Items -/

variable {r r' : Reading} {constraints : List (List Char)} {before : List Symbol}

/-- Tokens lead a reader from one state to another. -/
def Reading.Leads (r : Reading) (ts : List Token) (r' : Reading) : Prop :=
  ts.foldlM Reading.read? r = some r'

theorem Reading.Leads.nil (r : Reading) : r.Leads [] r := rfl

theorem Reading.Leads.single (h : r.read? t = some r') : r.Leads [t] r' := by
  rw [Reading.Leads, List.foldlM_cons, h]
  rfl

theorem Reading.Leads.append {q : Reading} (h : r.Leads ts r') (h' : r'.Leads us q) :
    r.Leads (ts ++ us) q := by
  rw [Reading.Leads, List.foldlM_append, h]
  exact h'

theorem Token.symbol?_eq_none {t : Token} (h : t.kind = .label ∨ t.kind = .but) :
    t.symbol? = none ∧ t.operandSymbol? = none := by
  rcases h with h | h <;> simp [Token.symbol?, Token.operandSymbol?, h]

/-- No label and no `but` goes on with an item. -/
theorem Place.within?_eq_none (h : t.kind = .label ∨ t.kind = .but) : p.within? t = none := by
  obtain ⟨hs, ho⟩ := Token.symbol?_eq_none h
  obtain ⟨kind, text⟩ := t
  rcases h with rfl | rfl <;> cases p <;> simp [Place.within?, Operands.after?, hs, ho]

/-- A token that goes on with an item does so in the whole state. -/
theorem Reading.read?_within (h : p.within? t = some p') :
    Reading.read? ⟨constraints, before, p⟩ t = some ⟨constraints, before, p'⟩ := by
  unfold Reading.read?
  split
  case h_7 hk _ _ _ => simp [Place.within?_eq_none (.inl hk)] at h
  case h_8 hk _ _ => simp [Place.within?_eq_none (.inr hk)] at h
  case h_9 => simp only [h]
  all_goals simp_all [Place.within?]

theorem Reading.leads_within (h : p.Leads ts p') :
    Reading.Leads ⟨constraints, before, p⟩ ts ⟨constraints, before, p'⟩ := by
  induction ts generalizing p with
  | nil =>
    obtain rfl := Option.some.inj h
    rfl
  | cons t ts ih =>
    rw [Place.Leads, List.foldlM_cons] at h
    obtain ⟨q, hq, h⟩ := Option.bind_eq_some_iff.1 h
    exact (Reading.Leads.single (read?_within hq)).append (ih h)

/-- An item may open in a state, after the items before it. -/
def Reading.Ready (r : Reading) (constraints : List (List Char)) (before : List Symbol) : Prop :=
  ∀ t p, Place.ofOpening? t = some p → r.read? t = some ⟨constraints, before, p⟩

theorem Reading.ready_start : Reading.Ready {} [] [] := by
  rintro ⟨kind, text⟩ p hp
  cases kind <;> simp_all [Place.ofOpening?, Reading.read?]

theorem Reading.ready_guarded (constraints : List (List Char)) :
    Reading.Ready ⟨constraints, [], .guarded⟩ constraints [] := by
  rintro ⟨kind, text⟩ p hp
  cases kind <;> simp_all [Place.ofOpening?, Reading.read?]

/-- An item may open where another one is complete. -/
theorem Reading.ready_item (hs : p.item? = some s) :
    Reading.Ready ⟨constraints, before, p⟩ constraints (before ++ [s]) := by
  rintro ⟨kind, text⟩ p' hp
  have hwithin : p.within? ⟨kind, text⟩ = none := by
    cases p <;> simp only [Place.item?, reduceCtorEq] at hs <;>
      cases kind <;> simp_all [Place.within?, Place.ofOpening?]
  unfold Reading.read?
  split <;> simp_all [Place.ofOpening?, Place.item?]

/-- After an item that it may follow, `but` is taken. -/
theorem Reading.read?_but (hs : p.left? = some s) :
    Reading.read? ⟨constraints, before, p⟩ Kind.but.token = some ⟨constraints, before, .but s⟩ := by
  cases p <;> simp_all [Place.left?, Reading.read?, Kind.token]

/-- The tokens of a primary symbol lead to a place where it is complete and `but not` may follow. -/
theorem Primary.leads (h : Primary ts s) (hr : r.Ready constraints before) :
    ∃ p, r.Leads ts ⟨constraints, before, p⟩ ∧ p.item? = some s ∧ p.left? = some s := by
  cases h with
  | single h =>
    obtain ⟨t, rfl, -, -, ht⟩ := h.eq_singleton
    exact ⟨_, .single (hr t _ ht), rfl, rfl⟩
  | @name n _ _ _ _ h ha ho =>
    have hname := Reading.Leads.single (hr ⟨.nonterminal, n⟩ (.name n) rfl)
    obtain ⟨p, hp, hitem, hleft, hmark⟩ := ha.leads
    have hguard := hname.append (Reading.leads_within hp)
    cases ho with
    | absent =>
      rw [List.append_nil]
      exact ⟨p, hguard, hitem, hleft⟩
    | present =>
      exact ⟨_, hguard.append (Reading.leads_within (.single hmark)), rfl, rfl⟩

/-- The tokens of an item lead to a place where it is complete. -/
theorem Item.leads (h : Item ts s) (hr : r.Ready constraints before) :
    ∃ p, r.Leads ts ⟨constraints, before, p⟩ ∧ p.item? = some s := by
  have hopen := hr Kind.leftBracket.token .opened rfl
  cases h with
  | primary h =>
    obtain ⟨p, hp, hs, -⟩ := h.leads hr
    exact ⟨p, hp, hs⟩
  | @butNot _ us left es h he =>
    obtain ⟨p, hp, -, hs⟩ := h.leads hr
    have hbut := hp.append (.single (Reading.read?_but hs))
    have hrest : (Place.but left).Leads (Kind.not.token :: us) (.excluded left es) :=
      .cons rfl (he.leads left)
    refine ⟨.excluded left es, ?_, rfl⟩
    have := hbut.append (Reading.leads_within hrest)
    simpa only [List.append_assoc, List.cons_append, List.nil_append] using this
  | @lookahead _ text op operands ho h =>
    have hop : (Place.openedLookahead).within? ⟨.operator, text⟩ = some (.operator op) := by
      simp [Place.within?, decode_comparison ho]
    have hrest := Place.Leads.cons (t := Kind.lookahead.token) (p := .opened) rfl
      (.cons hop (h.leads op))
    refine ⟨.closed (.lookahead op operands), ?_, rfl⟩
    have := (Reading.Leads.single hopen).append (Reading.leads_within hrest)
    simpa only [List.append_assoc, List.cons_append, List.nil_append] using this
  | forbidding h =>
    obtain @⟨us, members, h⟩ := h
    have hclose : (Place.forbidden none members).Leads
        [Kind.here.token, Kind.rightBracket.token] (.closed (.noSymbolHere members)) :=
      .cons rfl (.single rfl)
    have hrest := Place.Leads.cons (t := Kind.no.token) (p := .opened) rfl
      ((h.leads_forbidden none).append hclose)
    refine ⟨.closed (.noSymbolHere members), ?_, rfl⟩
    have := (Reading.Leads.single hopen).append (Reading.leads_within hrest)
    simpa only [List.append_assoc, List.cons_append, List.nil_append] using this
  | empty =>
    have hrest : Place.opened.Leads [Kind.empty.token, Kind.rightBracket.token] (.closed .empty) :=
      .cons rfl (.single rfl)
    exact ⟨_, (Reading.Leads.single hopen).append (Reading.leads_within hrest), rfl⟩

/-- The tokens of items lead to a place where the last of them is complete. -/
theorem Item.leads_all {symbols : List Symbol} (h : Repeated [] Item ts symbols) :
    ∀ {r : Reading} {before : List Symbol}, r.Ready constraints before →
      ∃ q s p, r.Leads ts ⟨constraints, q, p⟩ ∧ p.item? = some s ∧ q ++ [s] = before ++ symbols := by
  induction h with
  | one h =>
    intro r before hr
    obtain ⟨p, hp, hs⟩ := h.leads hr
    exact ⟨before, _, p, hp, hs, rfl⟩
  | more h _ ih =>
    intro r before hr
    obtain ⟨p, hp, hs⟩ := h.leads hr
    obtain ⟨q, s, p', hp', hs', hq⟩ := ih (Reading.ready_item hs)
    rw [List.append_nil]
    exact ⟨q, s, p', hp.append hp', hs', by rw [hq, List.append_assoc]; rfl⟩

/-! ### Whole alternatives -/

/-- A guard leads to where the first item may open. -/
theorem Guard.ready (h : Guard ts constraints) :
    ∃ r, Reading.Leads {} ts r ∧ r.Ready constraints [] := by
  cases h with
  | absent => exact ⟨_, .nil _, Reading.ready_start⟩
  | present h =>
    refine ⟨_, .single ?_, Reading.ready_guarded constraints⟩
    simp [Reading.read?, parameters_of_lists h]

theorem Reading.read?_label {text : List Char} (hs : p.item? = some s) :
    Reading.read? ⟨constraints, before, p⟩ ⟨.label, '#' :: text⟩ =
      some ⟨constraints, before ++ [s], .labelled text⟩ := by
  cases p <;> simp_all [Place.item?, Reading.read?]

theorem Reading.finish?_item {source : List Char} (hs : p.item? = some s) :
    Reading.finish? source ⟨constraints, before, p⟩ =
      some ⟨source, constraints, before ++ [s], none⟩ := by
  cases p <;> simp_all [Place.item?, Reading.finish?]

/-- The tokens of an alternative that is no prose lead from the first state to one in which the text
may end, and what has been read then is the alternative. -/
theorem Derives.leads {a : Alternative} (h : Derives ts a) (ha : ∀ text, .prose text ∉ a.symbols) :
    ∃ r, Reading.Leads {} ts r ∧ r.excess? = none ∧
      ∀ source, r.finish? source = some { a with source } := by
  cases h with
  | prose => exact absurd (List.mem_singleton_self _) (ha _)
  | items hg hi hl =>
    obtain ⟨r, hr, hready⟩ := hg.ready
    obtain ⟨q, s, p, hp, hs, hq⟩ := Item.leads_all hi hready
    have hitems := hr.append hp
    rw [List.nil_append] at hq
    cases hl with
    | absent =>
      rw [List.append_nil]
      refine ⟨_, hitems, ?_, fun source => by rw [Reading.finish?_item hs, hq]⟩
      cases p <;> first | rfl | simp [Place.item?] at hs
    | present =>
      refine ⟨_, hitems.append (.single (Reading.read?_label hs)), rfl, fun source => ?_⟩
      rw [← hq]
      rfl

end SpecGrammar.Notation
