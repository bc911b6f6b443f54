import SpecGrammar.Proofs.Notation.Layout
import SpecGrammar.Proofs.Notation.Progress
import SpecGrammar.Proofs.Notation.Replay

/-!
# Finding the tokens of an alternative

A state looks for several kinds of token, and the first that has a token wins. The kinds that a state
looks for begin with different characters, but for a bracketed list, which begins as an opening bracket
does, and for prose, which may begin as the name of a character does. So each token of a text that is
laid out as a derivation is found where it stands.

* `Progress.kind_mem`: a token that a state goes on with is of a kind that it looks for;
* `first?_of_read`: it is the one found;
* `run_of_laid`: a reader gets through a text that is laid out as tokens that lead it to an end.
-/

namespace SpecGrammar.Notation

variable {t : Token} {ts us : List Token} {p : Place} {s : List Char} {r r' : Reading}
  {symbol : Symbol} {kind : Kind}

/-! ### Kinds looked for -/

/-- The kinds of token that may open an item. -/
def openingKinds : List Kind := [.label, .leftBracket, .namedCharacter, .nonterminal, .terminal]

theorem openingKinds_subset_kindsAfter (symbol : Symbol) : openingKinds ⊆ kindsAfter symbol := by
  cases symbol <;> simp [openingKinds, kindsAfter]

theorem kindsAfterLast_of_repeated {sep : List Token} {P : List Token → Symbol → Prop}
    {symbols : List Symbol} (h : Repeated sep P ts symbols) :
    ∃ us last, P us last ∧ kindsAfterLast symbols = kindsAfter last := by
  induction h with
  | one h => exact ⟨_, _, h, rfl⟩
  | @more _ _ a r _ hr ih =>
    obtain ⟨us, last, hlast, hk⟩ := ih
    obtain ⟨b, q, rfl⟩ := List.exists_cons_of_ne_nil hr.ne_nil
    exact ⟨us, last, hlast, by rw [← hk, kindsAfterLast, kindsAfterLast, List.getLast?_cons_cons]⟩

theorem Plain.kinds (h : Plain ts symbol) : [Kind.or, Kind.here] ⊆ kindsAfter symbol := by
  cases h with
  | single h => cases h <;> simp [kindsAfter]
  | name => simp [kindsAfter]

theorem Part.kinds (h : Part ts symbol) :
    [Kind.leftBracket, .comma, .rightBrace, .rightBracket, .namedCharacter, .terminal] ⊆
      kindsAfter symbol := by
  cases h with
  | single h => cases h <;> simp [kindsAfter]
  | forbidding h => cases h; simp [kindsAfter]

theorem Token.kind_mem_of_symbol? (h : t.symbol? = some symbol) : t.kind ∈ plainKinds := by
  obtain ⟨kind, text⟩ := t
  cases kind <;> simp_all [Token.symbol?, plainKinds]

theorem Token.kind_of_operandSymbol? (h : t.operandSymbol? = some symbol) :
    t.kind = .namedCharacter ∨ t.kind = .terminal := by
  obtain ⟨kind, text⟩ := t
  cases kind <;> simp_all [Token.operandSymbol?]

theorem Token.kind_of_ofOpening? (h : Place.ofOpening? t = some p) : t.kind ∈ openingKinds := by
  obtain ⟨kind, text⟩ := t
  cases kind <;> simp_all [Place.ofOpening?, openingKinds]

/-- Where an item is complete, a label and whatever opens an item are looked for. -/
theorem Underway.openingKinds_subset (h : Underway us p) (hs : p.item? = some symbol) :
    openingKinds ⊆ p.kinds := by
  cases h with
  | single => exact openingKinds_subset_kindsAfter _
  | closed => exact openingKinds_subset_kindsAfter _
  | excluded _ he =>
    obtain ⟨_, hc⟩ := he.toChoice
    obtain ⟨-, last, -, hk⟩ := kindsAfterLast_of_repeated hc
    rw [Place.kinds, hk]
    exact openingKinds_subset_kindsAfter last
  | name => simp [openingKinds, Place.kinds]
  | arguments => simp [openingKinds, Place.kinds]
  | optional => simp [openingKinds, Place.kinds]
  | _ => simp [Place.item?] at hs

theorem Underway.but_mem (h : Underway us p) (hs : p.left? = some symbol) : Kind.but ∈ p.kinds := by
  cases h with
  | single h => cases h <;> simp [Place.kinds, kindsAfter]
  | name => simp [Place.kinds]
  | arguments => simp [Place.kinds]
  | optional => simp [Place.kinds]
  | _ => simp [Place.left?] at hs

theorem Comparing.kinds {o : Operands} (h : Comparing ts o) (hne : o.current ≠ []) :
    [Kind.leftBracket, .comma, .rightBrace, .rightBracket, .namedCharacter, .terminal] ⊆
      kindsAfterLast o.current := by
  obtain ⟨_, _, _, -, -, -, hc⟩ := h.split hne
  obtain ⟨_, last, hlast, hk⟩ := kindsAfterLast_of_repeated hc
  rw [hk]
  exact hlast.kinds

theorem Choice.kinds {members : List Symbol} (h : Choice ts members) :
    [Kind.or, Kind.here] ⊆ kindsAfterLast members := by
  obtain ⟨_, last, hlast, hk⟩ := kindsAfterLast_of_repeated h
  rw [hk]
  exact hlast.kinds

/-- A token that goes on with an item is of a kind that is looked for. -/
theorem Underway.kind_mem_within {p' : Place} (h : Underway us p) (hp : p.within? t = some p') :
    t.kind ∈ p.kinds := by
  cases h with
  | name | opened =>
    simp only [Place.within?] at hp
    split at hp <;> simp_all [Place.kinds]
  | arguments | but | butNotOne | openedEmpty | openedLookahead | operandOpened | braceClosed |
      forbiddenHere =>
    simp only [Place.within?, Option.ite_none_right_eq_some] at hp
    simp [Place.kinds, hp.1]
  | butNot =>
    simp only [Place.within?] at hp
    split at hp
    case isTrue hk => simp [Place.kinds, hk]
    case isFalse =>
      obtain ⟨s, hs, -⟩ := Option.map_eq_some_iff.1 hp
      exact List.mem_cons_of_mem _ (Token.kind_mem_of_symbol? hs)
  | excluding | forbidding =>
    obtain ⟨s, hs, -⟩ := Option.map_eq_some_iff.1 hp
    exact Token.kind_mem_of_symbol? hs
  | excluded _ he =>
    simp only [Place.within?, Option.ite_none_right_eq_some] at hp
    obtain ⟨_, hc⟩ := he.toChoice
    exact Choice.kinds hc (by simp [hp.1])
  | operator =>
    simp only [Place.within?] at hp
    split at hp
    case h_4 =>
      obtain ⟨s, hs, -⟩ := Option.map_eq_some_iff.1 hp
      rcases Token.kind_of_operandSymbol? hs with hk | hk <;> simp [Place.kinds, hk]
    all_goals simp_all [Place.kinds]
  | operandName =>
    simp only [Place.within?, Option.ite_none_right_eq_some] at hp
    simp [Place.kinds, kindsAfter, hp.1]
  | operandStart =>
    simp only [Place.within?] at hp
    split at hp
    case isTrue hk => simp [Place.kinds, hk]
    case isFalse =>
      obtain ⟨s, hs, -⟩ := Option.map_eq_some_iff.1 hp
      rcases Token.kind_of_operandSymbol? hs with hk | hk <;> simp [Place.kinds, hk]
  | operand h hne =>
    refine h.kinds hne ?_
    simp only [Place.within?, Operands.after?] at hp
    split at hp
    case h_5 =>
      obtain ⟨s, hs, -⟩ := Option.map_eq_some_iff.1 hp
      rcases Token.kind_of_operandSymbol? hs with hk | hk <;> simp [hk]
    all_goals simp_all
  | forbidden _ hm =>
    refine Choice.kinds hm ?_
    simp only [Place.within?] at hp
    split at hp <;> simp_all
  | single | closed | optional => simp [Place.within?] at hp

/-- A token that a state goes on with is of a kind that it looks for. -/
theorem Progress.kind_mem (h : Progress ts r) (hr : r.read? t = some r') : t.kind ∈ r.kinds := by
  cases h with
  | start | guarded =>
    obtain ⟨kind, text⟩ := t
    cases kind <;> simp_all [Reading.read?, Reading.kinds, Place.kinds, Place.ofOpening?]
  | prose =>
    obtain ⟨kind, text⟩ := t
    cases kind <;> simp_all [Reading.read?, Reading.kinds, Place.kinds, Place.item?, Place.left?,
      Place.within?]
  | item hg hb hu =>
    rcases Reading.read?_cases hr (by rintro ⟨⟩; cases hu) (by rintro ⟨⟩; cases hu)
        (by rintro text ⟨⟩; cases hu) with
      ⟨hk, s, hs, -⟩ | ⟨hk, s, hs, -⟩ | ⟨p, hp, -⟩ | ⟨s, p, hs, hp, -⟩
    · exact hu.openingKinds_subset hs (by simp [hk, openingKinds])
    · rw [hk]
      exact hu.but_mem hs
    · exact hu.kind_mem_within hp
    · exact hu.openingKinds_subset hs (Token.kind_of_ofOpening? hp)
  | labelled =>
    obtain ⟨kind, text⟩ := t
    cases kind <;> simp_all [Reading.read?, Place.item?, Place.left?, Place.within?]

/-! ### Rivals -/

/-- Two kinds of token that may begin with the same character where both are looked for. -/
def Kind.rivals : List (Kind × Kind) :=
  [(.params, .leftBracket), (.leftBracket, .params), (.namedCharacter, .prose),
    (.prose, .namedCharacter)]

/-- Different kinds in a list begin with different characters, but for rivals. -/
def Distinct (kinds : List Kind) : Prop :=
  ∀ k ∈ kinds, ∀ k' ∈ kinds, k = k' ∨ (k, k') ∈ Kind.rivals ∨ ∀ c ∈ k.leads, c ∉ k'.leads

instance (kinds : List Kind) : Decidable (Distinct kinds) :=
  -- the characters are those of the one list, and not all there are
  have (k k' : Kind) : Decidable (∀ c ∈ k.leads, c ∉ k'.leads) := List.decidableBAll _ _
  inferInstanceAs (Decidable (∀ k ∈ kinds, ∀ k' ∈ kinds,
    k = k' ∨ (k, k') ∈ Kind.rivals ∨ ∀ c ∈ k.leads, c ∉ k'.leads))

theorem distinct_kindsAfter (symbol : Symbol) : Distinct (kindsAfter symbol) := by
  cases symbol <;> simp only [kindsAfter] <;> decide +kernel

theorem distinct_kindsAfterLast (symbols : List Symbol) : Distinct (kindsAfterLast symbols) := by
  unfold kindsAfterLast
  split
  · exact distinct_kindsAfter _
  · decide

theorem Place.distinct_kinds (p : Place) : Distinct p.kinds := by
  cases p with
  | single s => exact distinct_kindsAfter s
  | closed s => exact distinct_kindsAfter s
  | operandName op n => exact distinct_kindsAfter (.nonterminal n [] false)
  | excluded left exclusions => exact distinct_kindsAfterLast exclusions
  | operand o => exact distinct_kindsAfterLast o.current
  | forbidden within members => exact distinct_kindsAfterLast members
  | _ =>
    simp only [Place.kinds, plainKinds]
    decide +kernel

/-! ### An opening bracket that opens no list of parameters -/

theorem Parameter.head (h : Parameter s) :
    ∃ c r, s = c :: r ∧ Text.isBlank c = false ∧
      (isCapital c = true ∨ c = '?' ∨ c = '+' ∨ c = '~') := by
  cases h with
  | @plain c r hc => exact ⟨c, r, rfl, Text.isBlank_of_isWord (isWord_of_isCapital hc), .inl hc⟩
  | @sigil g c r hg => exact ⟨g, c :: r, rfl, by rcases hg with rfl | rfl | rfl <;> decide, .inr hg⟩

/-- After its bracket and white space, a list of parameters begins as a parameter does. -/
theorem Lists.head {text : List Char} {entries : List (List Char)} (h : Lists text entries) :
    ∃ a c r, Text.Blank a ∧ text = '[' :: (a ++ c :: r) ∧ Text.isBlank c = false ∧
      (isCapital c = true ∨ c = '?' ∨ c = '+' ∨ c = '~') := by
  obtain ⟨hne, hp, hpad⟩ := h
  cases hpad with
  | nil => exact absurd rfl hne
  | @cons piece entry pieces entries hpiece =>
    obtain ⟨a, b, ha, -, rfl⟩ := hpiece
    obtain ⟨c, r, rfl, hblank, hc⟩ := (hp entry (by simp)).head
    obtain ⟨z, hz⟩ : ∃ z, Text.joinWith [','] ((a ++ c :: r ++ b) :: pieces) = a ++ c :: z := by
      cases pieces with
      | nil => exact ⟨r ++ b, by simp [Text.joinWith]⟩
      | cons q pieces =>
        exact ⟨r ++ b ++ [','] ++ Text.joinWith [','] (q :: pieces), by
          rw [Text.joinWith_cons (by simp)]; simp⟩
    exact ⟨a, c, z ++ [']'], ha, by rw [hz]; simp, hblank, hc⟩

/-- A text that goes on otherwise begins with no list of parameters. -/
theorem params?_eq_none {g q : List Char} {c : Char} (hg : Gap g) (hblank : Text.isBlank c = false)
    (hc : isCapital c = false) (hsigil : c ≠ '?' ∧ c ≠ '+' ∧ c ≠ '~') :
    params? ('[' :: (g ++ c :: q)) = none := by
  cases h : params? ('[' :: (g ++ c :: q)) with
  | none => rfl
  | some text =>
    obtain ⟨⟨entries, hl⟩, r, hr⟩ := params?_sound h
    obtain ⟨a, d, z, ha, rfl, hd, hhead⟩ := hl.head
    have hskip : ∀ {b : List Char} {e : Char} {y : List Char}, Text.Blank b →
        Text.isBlank e = false → Text.trimStart (b ++ e :: y) = e :: y := by
      intro b e y hb he
      rw [Text.trimStart_append hb, Text.trimStart, List.dropWhile_cons_of_neg (by simp [he])]
    have heq : g ++ c :: q = a ++ d :: (z ++ r) := by
      have := (List.cons.inj hr).2
      simpa using this
    have htrim := congrArg Text.trimStart heq
    rw [hskip (fun e he => isBlank_of_isGap (hg e he)) hblank, hskip ha hd] at htrim
    obtain rfl := (List.cons.inj htrim).1
    rcases hhead with hcap | hcap | hcap | hcap
    · rw [hcap] at hc
      exact Bool.noConfusion hc
    · exact absurd hcap hsigil.1
    · exact absurd hcap hsigil.2.1
    · exact absurd hcap hsigil.2.2

/-- Where an opening bracket has been read, another bracket is to be closed. -/
def Place.Bracketed (p : Place) : Prop := p = .opened ∨ ∃ o, p = .operandOpened o

theorem Reading.bracketed_of_read? (hk : t.kind = .leftBracket) (hr : r.read? t = some r') :
    r'.place.Bracketed := by
  have hopen : ∀ {p}, Place.ofOpening? t = some p → p.Bracketed := by
    intro p hp
    rw [Place.ofOpening?, hk] at hp
    exact .inl (Option.some.inj hp).symm
  have hwithin : ∀ {p p' : Place}, p.within? t = some p' → p'.Bracketed := by
    intro p p' hp
    obtain ⟨kind, text⟩ := t
    obtain rfl : kind = .leftBracket := hk
    cases p <;> simp_all [Place.within?, Operands.after?, Token.symbol?] <;>
      exact .inr ⟨_, hp.symm⟩
  unfold Reading.read? at hr
  split at hr <;> simp_all only [reduceCtorEq, Option.map_eq_some_iff]
  case h_9 =>
    split at hr
    case h_1 p hp =>
      obtain rfl := Option.some.inj hr
      exact hwithin hp
    case h_2 =>
      obtain ⟨s, hs, hr⟩ := Option.bind_eq_some_iff.1 hr
      obtain ⟨p, hp, hr⟩ := Option.bind_eq_some_iff.1 hr
      obtain rfl := Option.some.inj hr
      exact hopen hp
  all_goals
    obtain ⟨p, hp, rfl⟩ := hr
    exact hopen hp

theorem Place.Bracketed.kind_of_within? {p' : Place} (h : p.Bracketed) (hp : p.within? t = some p') :
    t.kind = .empty ∨ t.kind = .lookahead ∨ t.kind = .no := by
  rcases h with rfl | ⟨o, rfl⟩
  · simp only [Place.within?] at hp
    split at hp <;> simp_all
  · simp only [Place.within?, Option.ite_none_right_eq_some] at hp
    exact .inr (.inr hp.1)

theorem Reading.within?_of_bracketed (h : r.place.Bracketed) (hr : r.read? t = some r') :
    ∃ p, r.place.within? t = some p := by
  have hnone : r.place.item? = none ∧ r.place.left? = none := by
    rcases h with h | ⟨o, h⟩ <;> rw [h] <;> exact ⟨rfl, rfl⟩
  have hplace : r.place ≠ .start ∧ r.place ≠ .guarded ∧ ∀ text, r.place ≠ .prose text := by
    rcases h with h | ⟨o, h⟩ <;> rw [h] <;> simp
  rcases Reading.read?_cases hr hplace.1 hplace.2.1 hplace.2.2 with
    ⟨-, s, hs, -⟩ | ⟨-, s, hs, -⟩ | ⟨p, hp, -⟩ | ⟨s, p, hs, -, -⟩
  · simp [hnone.1] at hs
  · simp [hnone.2] at hs
  · exact ⟨p, hp⟩
  · simp [hnone.1] at hs

/-- Where a bracket is open, no text may end. -/
theorem Place.Bracketed.finish?_eq_none {source : List Char} (h : r.place.Bracketed) :
    r.finish? source = none := by
  obtain ⟨constraints, before, place⟩ := r
  rcases h with h | ⟨o, h⟩ <;> cases h <;> rfl

/-- The text after an opening bracket makes no list of parameters of it, if the tokens that it is laid
out as lead to an end. -/
theorem params?_of_bracketed (h : r.place.Bracketed) (hs : Laid ts s) (hl : Wordless ts)
    (hr : r.Leads ts r') {source : List Char} (hend : r'.finish? source ≠ none) :
    params? ('[' :: s) = none := by
  cases hs with
  | nil =>
    obtain rfl := Option.some.inj hr
    exact absurd h.finish?_eq_none hend
  | @cons g s t ts hg _ hlaid =>
    rw [Reading.Leads, List.foldlM_cons] at hr
    obtain ⟨q, hq, -⟩ := Option.bind_eq_some_iff.1 hr
    obtain ⟨p, hp⟩ := Reading.within?_of_bracketed h hq
    have hlead := (hl t (by simp)).1.lead
    obtain ⟨c, x, htext, hc⟩ := hlead
    have hchar : Text.isBlank c = false ∧ isCapital c = false ∧ c ≠ '?' ∧ c ≠ '+' ∧ c ≠ '~' := by
      rcases h.kind_of_within? hp with hk | hk | hk
      all_goals
        rw [hk] at hc
        obtain rfl := List.mem_singleton.1 hc
        decide
    rw [htext, List.append_assoc, List.cons_append]
    exact params?_eq_none hg hchar.1 hchar.2.1 hchar.2.2

/-! ### Every token is found -/

theorem first?_params {accepted : List Kind} {text : List Char} (hk : Kind.params ∈ accepted)
    (hm : params? s = some text) : first? accepted s = some ⟨.params, text⟩ := by
  have hfilter : Kind.all.filter accepted.contains =
      .params :: Kind.all.tail.filter accepted.contains := by
    rw [Kind.all, List.filter_cons_of_pos (by simpa using hk)]
    rfl
  rw [first?, hfilter, List.findSome?_cons]
  simp [Kind.match?, hm]

theorem prose?_of_character {text name : List Char} (h : CharacterSpelling text name)
    (s : List Char) : prose? (text ++ s) = none := by
  cases h <;> rfl

/-- A token that a state goes on with is the one found, if it does not run on and is no opening bracket
that a list of parameters hides. -/
theorem first?_of_read (h : Progress us r) (hl : Lexeme t.kind t.text) (hprose : t.kind ≠ .prose)
    (hrun : ∀ c ∈ s.head?, t.runsOn c = false) (hr : r.read? t = some r')
    (hbracket : t.kind = .leftBracket → params? (t.text ++ s) = none) :
    first? r.kinds (t.text ++ s) = some t := by
  have hmem := h.kind_mem hr
  have hmatch : t.kind.match? (t.text ++ s) = some t.text := match?_complete hl hprose hrun
  by_cases hparams : t.kind = .params
  · obtain ⟨kind, text⟩ := t
    obtain rfl : kind = .params := hparams
    exact first?_params hmem hmatch
  refine first?_complete hmem hmatch fun k hk hne => ?_
  cases hother : k.match? (t.text ++ s) with
  | none => rfl
  | some u =>
    obtain ⟨c, x, htext, hc⟩ := hl.lead
    have hck : c ∈ k.leads := by
      rw [htext, List.cons_append] at hother
      exact mem_leads_of_match? hother
    rcases r.place.distinct_kinds k hk t.kind hmem with heq | hrival | hdisjoint
    · exact absurd heq hne
    · simp only [Kind.rivals, List.mem_cons, Prod.mk.injEq, List.not_mem_nil, or_false] at hrival
      rcases hrival with ⟨rfl, hb⟩ | ⟨-, hb⟩ | ⟨-, hb⟩ | ⟨rfl, hb⟩
      · exact absurd hother (by simp [Kind.match?, hbracket hb])
      · exact absurd hb hparams
      · exact absurd hb hprose
      · obtain ⟨kind, text⟩ := t
        obtain rfl : kind = .namedCharacter := hb
        cases hl with
        | namedCharacter hname =>
          exact absurd hother (by simp [Kind.match?, prose?_of_character hname])
        | word hw => simp [Kind.word?] at hw
    · exact absurd hc (hdisjoint c hck)

/-- A reader gets through a text that is laid out as tokens, if they lead it from a state that stands
for a beginning to one in which the text may end. -/
theorem run_of_laid (hs : Laid ts s) (hl : Wordless ts) {source : List Char}
    (hend : r'.finish? source ≠ none) :
    ∀ {us : List Token} {r : Reading} {last offset : Nat}, Progress us r → r.Leads ts r' →
      ∃ last', alternativeReader.run r last offset s = .ok (r', last') := by
  induction hs with
  | nil hg =>
    intro us r last offset h hr
    obtain rfl := Option.some.inj hr
    exact ⟨last, Reader.run_of_gap hg⟩
  | @cons g s t ts hg hrun hlaid ih =>
    intro us r last offset h hr
    rw [Reading.Leads, List.foldlM_cons] at hr
    obtain ⟨q, hq, hr⟩ := Option.bind_eq_some_iff.1 hr
    obtain ⟨ht, hprose⟩ := hl t (by simp)
    have hl' : Wordless ts := fun u hu => hl u (by simp [hu])
    have hbracket : t.kind = .leftBracket → params? (t.text ++ s) = none := by
      intro hk
      rw [Token.eq_token ht hk rfl]
      exact params?_of_bracketed (Reading.bracketed_of_read? hk hq) hlaid hl' hr hend
    have hfirst := first?_of_read h ht hprose hrun hq hbracket
    rw [List.append_assoc, Reader.run_gap hg, Reader.run_token ht hfirst hq]
    exact ih hl' (h.read ht hq) hr

end SpecGrammar.Notation
