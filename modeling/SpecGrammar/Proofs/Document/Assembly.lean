import SpecGrammar.Document.Assembly
import SpecGrammar.Proofs.Traversal

/-!
# What an assembly holds

* `Sorts`: the productions of a piece of notation, each kind in the order of the piece;
* `Contributes`: what one piece contributes to an assembly, and the obstacle at which it stops;
* `contributes_iff`: adding a piece appends just what it contributes;
* `normalizes_iff`: a piece meets no obstacle just if all its productions normalize;
* `Takes`: what the pieces of one step contribute, up to the first obstacle;
* `run_holds`: after any steps an assembly holds what it held before them and the contributions of
  every step, one after the other, and the next step answers for its own pieces only.
-/

namespace SpecGrammar

open Notation

/-! ### The two kinds of production -/

/-- The productions among some elements that have alternatives or no body, and those that are lists of
terminals. -/
inductive Sorts : List Element → List Production → List Production → Prop
  | nil : Sorts [] [] []
  | directive {text : List Char} {es : List Element} {ps qs : List Production} (h : Sorts es ps qs) :
      Sorts (.directive text :: es) ps qs
  | absent {p : Production} {es : List Element} {ps qs : List Production} (hp : p.body = none)
      (h : Sorts es ps qs) : Sorts (.production p :: es) (p :: ps) qs
  | alternatives {p : Production} {as : List Alternative} {es : List Element}
      {ps qs : List Production} (hp : p.body = some (.alternatives as)) (h : Sorts es ps qs) :
      Sorts (.production p :: es) (p :: ps) qs
  | oneOf {p : Production} {ts : List (List Char)} {es : List Element} {ps qs : List Production}
      (hp : p.body = some (.oneOf ts)) (h : Sorts es ps qs) :
      Sorts (.production p :: es) ps (p :: qs)

theorem Notation.Production.terminals?_eq_some_iff {p : Production} {ts : List (List Char)} :
    p.terminals? = some ts ↔ p.body = some (.oneOf ts) := by
  unfold Notation.Production.terminals?
  split <;> simp_all

theorem sorts_iff {es : List Element} {ps qs : List Production} :
    Sorts es ps qs ↔
      ps = (es.filterMap Element.production?).filter (fun p => p.terminals?.isNone) ∧
        qs = (es.filterMap Element.production?).filter (fun p => p.terminals?.isSome) := by
  constructor
  · intro h
    induction h with
    | nil => simp
    | directive _ ih => simpa [List.filterMap_cons, Element.production?] using ih
    | absent hp _ ih => simp_all [Element.production?, Production.terminals?]
    | alternatives hp _ ih => simp_all [Element.production?, Production.terminals?]
    | oneOf hp _ ih => simp_all [Element.production?, Production.terminals?]
  · rintro ⟨rfl, rfl⟩
    induction es with
    | nil => exact .nil
    | cons e es ih =>
      cases e with
      | directive text => exact .directive ih
      | production p =>
        rw [List.filterMap_cons]
        cases hp : p.body with
        | none =>
          simpa [Element.production?, Production.terminals?, hp] using Sorts.absent hp ih
        | some body =>
          cases body with
          | alternatives as =>
            simpa [Element.production?, Production.terminals?, hp] using Sorts.alternatives hp ih
          | oneOf ts => simpa [Element.production?, Production.terminals?, hp] using Sorts.oneOf hp ih

/-- The productions of a piece are sorted by their kind. -/
theorem Notation.Grammar.sorts (g : Grammar) : Sorts g.elements g.sequences g.oneOfs :=
  sorts_iff.2 ⟨rfl, rfl⟩

theorem Sorts.eq {g : Grammar} {ps qs : List Production} (h : Sorts g.elements ps qs) :
    g.sequences = ps ∧ g.oneOfs = qs := by
  obtain ⟨rfl, rfl⟩ := sorts_iff.1 h
  exact ⟨rfl, rfl⟩

/-! ### Productions, normalized -/

/-- A production, normalized alternative by alternative. -/
structure Normal (p : Production) (s : SequenceProduction) : Prop where
  name : s.name = p.name
  body : List.Forall₂ (fun a n => normalizeAlternative a = .ok n) p.alternatives s.body

/-- A production that is a list of terminals, with each of them decoded. -/
structure Decoded (p : Production) (o : OneOfProduction) : Prop where
  name : o.name = p.name
  terminals : ∃ ts, p.body = some (.oneOf ts) ∧
    List.Forall₂ (fun t u => Reference.tryDecode t = .ok u) ts o.terminals

/-- The first alternative of a production that has no normalized form. -/
structure Offends (p : Production) (a : Alternative) (cause : Inexpressible) : Prop where
  first : ∃ before after, p.alternatives = before ++ a :: after ∧
    ∀ b ∈ before, ∃ n, normalizeAlternative b = .ok n
  inexpressible : normalizeAlternative a = .error cause

/-- The first terminal of a production that holds a number of too many digits. -/
structure Exceeds (p : Production) (e : Decimal.Excess) : Prop where
  first : ∃ before t after, p.body = some (.oneOf (before ++ t :: after)) ∧
    (∀ b ∈ before, ∃ u, Reference.tryDecode b = .ok u) ∧ Reference.tryDecode t = .error e

/-- All alternatives of a production have a normalized form, and no terminal of it holds a number of too
many digits. -/
structure Notation.Production.Normalizes (p : Production) : Prop where
  alternatives : ∀ a ∈ p.alternatives, ∃ n, normalizeAlternative a = .ok n
  terminals : ∀ ts, p.body = some (.oneOf ts) → ∀ t ∈ ts, ∃ u, Reference.tryDecode t = .ok u

/-- All productions of a piece of notation normalize. -/
def Notation.Grammar.Normalizes (g : Grammar) : Prop := ∀ p ∈ g.productions, p.Normalizes

/-- The obstacle that an alternative without a normalized form is. -/
def obstacleAt (fragment production : List Char) (a : Alternative) (cause : Inexpressible) :
    Obstacle :=
  .inexpressible
    { detail := cause.message
      production := some production
      source := some a.source
      fragment := some fragment }
    (normalizationRecord production a.source fragment)

section Productions

variable {fragment : List Char} {p : Production}

theorem normalizeIn_eq_ok_iff {production : List Char} {a : Alternative} {n : NodeSequence} :
    normalizeIn fragment production a = .ok n ↔ normalizeAlternative a = .ok n := by
  unfold normalizeIn
  cases normalizeAlternative a <;> simp [Except.mapError]

theorem normalizeIn_eq_error_iff {production : List Char} {a : Alternative} {o : Obstacle} :
    normalizeIn fragment production a = .error o ↔
      ∃ cause, normalizeAlternative a = .error cause ∧ o = obstacleAt fragment production a cause := by
  unfold normalizeIn
  cases normalizeAlternative a with
  | ok n => simp [Except.mapError]
  | error cause =>
    simp only [Except.mapError, Except.error.injEq, exists_eq_left']
    exact eq_comm

theorem normalizeProduction_eq_ok_iff {s : SequenceProduction} :
    normalizeProduction fragment p = .ok s ↔ Normal p s := by
  have hbody : ∀ ns, p.alternatives.mapM (normalizeIn fragment p.name) = .ok ns ↔
      List.Forall₂ (fun a n => normalizeAlternative a = .ok n) p.alternatives ns := by
    intro ns
    simp only [mapM_eq_ok_iff, normalizeIn_eq_ok_iff]
  unfold normalizeProduction
  constructor
  · intro h
    cases hm : p.alternatives.mapM (normalizeIn fragment p.name) with
    | error o => simp [hm, bind, Except.bind] at h
    | ok ns =>
      rw [hm] at h
      obtain rfl := Except.ok.inj h
      exact ⟨rfl, (hbody ns).1 hm⟩
  · rintro ⟨hname, hs⟩
    rw [(hbody s.body).2 hs, ← hname]
    rfl

theorem normalizeProduction_eq_error_iff {o : Obstacle} :
    normalizeProduction fragment p = .error o ↔
      ∃ a cause, Offends p a cause ∧ o = obstacleAt fragment p.name a cause := by
  have herror : normalizeProduction fragment p = .error o ↔
      p.alternatives.mapM (normalizeIn fragment p.name) = .error o := bind_pure_eq_error_iff
  rw [herror, mapM_eq_error_iff]
  simp only [normalizeIn_eq_ok_iff, normalizeIn_eq_error_iff]
  constructor
  · rintro ⟨before, a, after, hp, hbefore, cause, ha, rfl⟩
    exact ⟨a, cause, ⟨⟨before, after, hp, hbefore⟩, ha⟩, rfl⟩
  · rintro ⟨a, cause, ⟨⟨before, after, hp, hbefore⟩, ha⟩, rfl⟩
    exact ⟨before, a, after, hp, hbefore, cause, ha, rfl⟩

/-- A production that is a list of terminals, normalized. -/
def normalizeList (p : Production) : Except Obstacle OneOfProduction :=
  normalizeOneOf p.name (p.terminals?.getD [])

variable {ts : List (List Char)}

theorem normalizeList_eq_ok_iff (hp : p.body = some (.oneOf ts)) {o : OneOfProduction} :
    normalizeList p = .ok o ↔ Decoded p o := by
  have hts : p.terminals?.getD [] = ts := by rw [Production.terminals?_eq_some_iff.2 hp]; rfl
  have hall : ∀ us, normalizeTerminals ts = .ok us ↔
      List.Forall₂ (fun t u => Reference.tryDecode t = .ok u) ts us := fun us => mapM_eq_ok_iff
  rw [normalizeList, hts, normalizeOneOf]
  constructor
  · intro h
    cases hm : normalizeTerminals ts with
    | error e => simp [hm, Except.mapError, Except.map] at h
    | ok us =>
      rw [hm] at h
      obtain rfl := Except.ok.inj h
      exact ⟨rfl, ts, hp, (hall us).1 hm⟩
  · rintro ⟨hname, ts', hp', hus⟩
    obtain rfl : ts = ts' := by simpa [hp] using hp'
    rw [(hall _).2 hus, ← hname]
    rfl

theorem normalizeList_eq_error_iff (hp : p.body = some (.oneOf ts)) {o : Obstacle} :
    normalizeList p = .error o ↔ ∃ e, Exceeds p e ∧ o = .excess e := by
  have hts : p.terminals?.getD [] = ts := by rw [Production.terminals?_eq_some_iff.2 hp]; rfl
  have herror : normalizeList p = .error o ↔ ∃ e, normalizeTerminals ts = .error e ∧ o = .excess e := by
    rw [normalizeList, hts, normalizeOneOf]
    cases normalizeTerminals ts with
    | ok us => simp [Except.mapError, Except.map]
    | error e => simp [Except.mapError, Except.map, eq_comm]
  rw [herror]
  refine exists_congr fun e => and_congr_left fun _ => ?_
  rw [normalizeTerminals, mapM_eq_error_iff]
  constructor
  · rintro ⟨before, t, after, rfl, hbefore, ht⟩
    exact ⟨⟨before, t, after, hp, hbefore, ht⟩⟩
  · rintro ⟨before, t, after, hp', hbefore, ht⟩
    obtain rfl : ts = before ++ t :: after := by simpa [hp] using hp'
    exact ⟨before, t, after, rfl, hbefore, ht⟩

end Productions

/-! ### One piece -/

namespace Assembly

section Collect

variable {α : Type} {l : List (Except Obstacle α)} {xs : List α}

theorem collect_eq_none_iff :
    collect l = (xs, none) ↔ List.Forall₂ (fun r x => r = .ok x) l xs := by
  induction l generalizing xs with
  | nil =>
    constructor
    · intro h
      obtain rfl := (Prod.mk.inj h).1
      exact .nil
    · rintro ⟨⟩
      rfl
  | cons r l ih =>
    cases r with
    | error o =>
      constructor
      · intro h
        exact absurd (Prod.mk.inj h).2 (by simp)
      · rintro (_ | ⟨h, _⟩)
        exact absurd h (by simp)
    | ok x =>
      rw [collect]
      constructor
      · intro h
        obtain ⟨rfl, hnone⟩ := Prod.mk.inj h
        exact .cons rfl (ih.1 (Prod.ext rfl hnone))
      · rintro (_ | ⟨h, hrest⟩)
        obtain rfl := Except.ok.inj h
        rw [ih.2 hrest]

theorem collect_eq_some_iff {o : Obstacle} :
    collect l = (xs, some o) ↔
      ∃ before after, l = before ++ .error o :: after ∧
        List.Forall₂ (fun r x => r = .ok x) before xs := by
  induction l generalizing xs with
  | nil => simp [collect]
  | cons r l ih =>
    cases r with
    | error o' =>
      constructor
      · intro h
        obtain ⟨rfl, ho⟩ := Prod.mk.inj h
        obtain rfl := Option.some.inj ho
        exact ⟨[], l, rfl, .nil⟩
      · rintro ⟨before, after, hl, hbefore⟩
        cases hbefore with
        | nil =>
          obtain ⟨ho, -⟩ := List.cons.inj hl
          rw [collect, Except.error.inj ho]
        | cons h _ =>
          obtain ⟨ho, -⟩ := List.cons.inj hl
          exact absurd (ho.trans h) (by simp)
    | ok x =>
      rw [collect]
      constructor
      · intro h
        obtain ⟨rfl, hsome⟩ := Prod.mk.inj h
        obtain ⟨before, after, rfl, hbefore⟩ := ih.1 (Prod.ext rfl hsome)
        exact ⟨.ok x :: before, after, rfl, .cons rfl hbefore⟩
      · rintro ⟨before, after, hl, hbefore⟩
        cases hbefore with
        | nil => exact absurd (List.cons.inj hl).1 (by simp)
        | cons h hrest =>
          rw [List.cons_append, List.cons.injEq] at hl
          obtain ⟨hx, rfl⟩ := hl
          obtain rfl := Except.ok.inj (hx.trans h)
          rw [ih.2 ⟨_, after, rfl, hrest⟩]

theorem collect_map_eq_none_iff {β : Type} {f : β → Except Obstacle α} {bs : List β} :
    collect (bs.map f) = (xs, none) ↔ List.Forall₂ (fun b x => f b = .ok x) bs xs := by
  rw [collect_eq_none_iff, List.forall₂_map_left_iff]

theorem collect_map_eq_some_iff {β : Type} {f : β → Except Obstacle α} {bs : List β} {o : Obstacle} :
    collect (bs.map f) = (xs, some o) ↔
      ∃ before b after, bs = before ++ b :: after ∧
        List.Forall₂ (fun b x => f b = .ok x) before xs ∧ f b = .error o := by
  rw [collect_eq_some_iff]
  constructor
  · rintro ⟨before, after, hl, hbefore⟩
    obtain ⟨bs₁, bs₂, rfl, rfl, hbs₂⟩ := List.map_eq_append_iff.1 hl
    obtain ⟨b, bs₃, rfl, hb, -⟩ := List.map_eq_cons_iff.1 hbs₂
    exact ⟨bs₁, b, bs₃, rfl, List.forall₂_map_left_iff.1 hbefore, hb⟩
  · rintro ⟨before, b, after, rfl, hbefore, hb⟩
    refine ⟨before.map f, after.map f, ?_, List.forall₂_map_left_iff.2 hbefore⟩
    rw [List.map_append, List.map_cons, hb]

end Collect

theorem normalizedLists_eq (g : Grammar) : normalizedLists g = g.oneOfs.map normalizeList := by
  have hlist : ∀ p ∈ g.oneOfs,
      p.terminals?.map (normalizeOneOf p.name) = some (normalizeList p) := by
    intro p hp
    obtain ⟨ts, hts⟩ := Option.isSome_iff_exists.1 (List.mem_filter.1 hp).2
    rw [normalizeList, hts]
    rfl
  rw [normalizedLists, List.filterMap_congr hlist, List.filterMap_eq_map']

end Assembly

/-- A document with others appended to it, each kind of production on its own. -/
def Document.followedBy (d : Document) (ds : List Document) : Document :=
  ⟨d.sequences ++ ds.flatMap (·.sequences), d.oneOfs ++ ds.flatMap (·.oneOfs)⟩

@[simp]
theorem Document.followedBy_nil (d : Document) : d.followedBy [] = d := by
  simp [Document.followedBy]

@[simp]
theorem Document.followedBy_append (d : Document) (ds es : List Document) :
    d.followedBy (ds ++ es) = (d.followedBy ds).followedBy es := by
  simp [Document.followedBy]

theorem Document.followedBy_followedBy (d : Document) (ds : List Document) :
    d.followedBy [Document.followedBy {} ds] = d.followedBy ds := by
  simp [Document.followedBy]

/-- What a piece of notation contributes to an assembly, and the obstacle at which it stops. -/
inductive Contributes (g : Grammar) : Document → Option Obstacle → Prop
  | complete {ps qs : List Production} {ss : List SequenceProduction} {os : List OneOfProduction}
      (hg : Sorts g.elements ps qs) (hs : List.Forall₂ Normal ps ss)
      (ho : List.Forall₂ Decoded qs os) : Contributes g ⟨ss, os⟩ none
  /-- An alternative without a normalized form: nothing of its production and of those after it, and
  no list of terminals at all. -/
  | offended {before after qs : List Production} {p : Production} {a : Alternative}
      {cause : Inexpressible} {ss : List SequenceProduction}
      (hg : Sorts g.elements (before ++ p :: after) qs) (hs : List.Forall₂ Normal before ss)
      (hp : Offends p a cause) : Contributes g ⟨ss, []⟩ (some (obstacleAt g.text p.name a cause))
  /-- A terminal with a number of too many digits, where all alternatives have a normalized form. -/
  | exceeded {ps before after : List Production} {p : Production} {e : Decimal.Excess}
      {ss : List SequenceProduction} {os : List OneOfProduction}
      (hg : Sorts g.elements ps (before ++ p :: after)) (hs : List.Forall₂ Normal ps ss)
      (ho : List.Forall₂ Decoded before os) (hp : Exceeds p e) :
      Contributes g ⟨ss, os⟩ (some (.excess e))

namespace Assembly

section Pieces

variable {g : Grammar} {d : Document} {o : Option Obstacle}

theorem collect_sequences_iff {ss : List SequenceProduction} :
    collect (g.sequences.map (normalizeProduction g.text)) = (ss, none) ↔
      List.Forall₂ Normal g.sequences ss := by
  simp only [collect_map_eq_none_iff, normalizeProduction_eq_ok_iff]

theorem forall₂_normalizeList_iff {qs : List Production} {os : List OneOfProduction}
    (h : ∀ q ∈ qs, q.terminals?.isSome = true) :
    List.Forall₂ (fun q o => normalizeList q = .ok o) qs os ↔ List.Forall₂ Decoded qs os := by
  induction qs generalizing os with
  | nil => simp
  | cons q qs ih =>
    obtain ⟨hq, hqs⟩ := List.forall_mem_cons.1 h
    obtain ⟨ts, hts⟩ := Option.isSome_iff_exists.1 hq
    rw [Production.terminals?_eq_some_iff] at hts
    simp only [List.forall₂_cons_left_iff, normalizeList_eq_ok_iff hts, ih hqs]

theorem isSome_of_mem_oneOfs : ∀ q ∈ g.oneOfs, q.terminals?.isSome = true :=
  fun _ hq => (List.mem_filter.1 hq).2

/-- Adding a piece appends what it contributes. -/
theorem add_of_contributes (a : Assembly) (h : Contributes g d o) :
    a.add g = (a.followedBy [d], o) := by
  cases h with
  | complete hg hs ho =>
    obtain ⟨rfl, rfl⟩ := hg.eq
    have hlists := collect_map_eq_none_iff.2
      ((forall₂_normalizeList_iff isSome_of_mem_oneOfs).2 ho)
    rw [add, collect_sequences_iff.2 hs, normalizedLists_eq, hlists]
    simp [Document.followedBy]
  | @offended before after qs p a' cause ss hg hs hp =>
    have hstop : collect (g.sequences.map (normalizeProduction g.text)) =
        (ss, some (obstacleAt g.text p.name a' cause)) := by
      rw [hg.eq.1, collect_map_eq_some_iff]
      simp only [normalizeProduction_eq_ok_iff, normalizeProduction_eq_error_iff]
      exact ⟨before, p, after, rfl, hs, a', cause, hp, rfl⟩
    rw [add, hstop]
    simp [Document.followedBy]
  | @exceeded ps before after p e ss os hg hs ho hp =>
    obtain ⟨rfl, hq⟩ := hg.eq
    have hmem := hq ▸ isSome_of_mem_oneOfs (g := g)
    have hstop : collect (normalizedLists g) = (os, some (.excess e)) := by
      rw [normalizedLists_eq, hq, collect_map_eq_some_iff]
      obtain ⟨b, t, r, hbody, -⟩ := hp.first
      refine ⟨before, p, after, rfl, ?_, (normalizeList_eq_error_iff hbody).2 ⟨e, hp, rfl⟩⟩
      exact (forall₂_normalizeList_iff fun q hq => hmem q (by simp [hq])).2 ho
    rw [add, collect_sequences_iff.2 hs, hstop]
    simp [Document.followedBy]

/-- Every piece contributes something, if only nothing with an obstacle. -/
theorem exists_contributes (g : Grammar) : ∃ d o, Contributes g d o := by
  have hsorts := g.sorts
  cases hs : collect (g.sequences.map (normalizeProduction g.text)) with
  | mk ss stop =>
    cases stop with
    | some o =>
      obtain ⟨before, p, after, hsplit, hbefore, hp⟩ := collect_map_eq_some_iff.1 hs
      obtain ⟨a, cause, ha, rfl⟩ := normalizeProduction_eq_error_iff.1 hp
      simp only [normalizeProduction_eq_ok_iff] at hbefore
      rw [hsplit] at hsorts
      exact ⟨_, _, .offended hsorts hbefore ha⟩
    | none =>
      rw [collect_sequences_iff] at hs
      cases ho : collect (g.oneOfs.map normalizeList) with
      | mk os stop =>
        cases stop with
        | none =>
          rw [collect_map_eq_none_iff, forall₂_normalizeList_iff isSome_of_mem_oneOfs] at ho
          exact ⟨_, _, .complete hsorts hs ho⟩
        | some o =>
          obtain ⟨before, p, after, hsplit, hbefore, hp⟩ := collect_map_eq_some_iff.1 ho
          have hmem := hsplit ▸ isSome_of_mem_oneOfs (g := g)
          obtain ⟨ts, hts⟩ := Option.isSome_iff_exists.1 (hmem p (by simp))
          obtain ⟨e, he, rfl⟩ :=
            (normalizeList_eq_error_iff (Production.terminals?_eq_some_iff.1 hts)).1 hp
          rw [forall₂_normalizeList_iff fun q hq => hmem q (by simp [hq])] at hbefore
          rw [hsplit] at hsorts
          exact ⟨_, _, .exceeded hsorts hs hbefore he⟩

/-- What a piece contributes is what adding it appends, to whatever assembly. -/
theorem contributes_iff : Contributes g d o ↔ ∀ a : Assembly, a.add g = (a.followedBy [d], o) := by
  refine ⟨fun h a => add_of_contributes a h, fun h => ?_⟩
  obtain ⟨⟨ss', os'⟩, o', h'⟩ := exists_contributes g
  obtain ⟨ss, os⟩ := d
  have hadd := (add_of_contributes {} h').symm.trans (h {})
  obtain ⟨hd, rfl⟩ := Prod.mk.inj hadd
  obtain ⟨rfl, rfl⟩ : ss' = ss ∧ os' = os := by simpa [Document.followedBy] using hd
  exact h'

/-- A piece meets no obstacle just if all its productions normalize. -/
theorem normalizes_iff : g.Normalizes ↔ ∃ d, Contributes g d none := by
  constructor
  · intro h
    have hs : ∃ ss, List.Forall₂ Normal g.sequences ss := by
      refine exists_forall₂.2 fun p hp => ?_
      obtain ⟨ns, hns⟩ := exists_forall₂.2 (h p (List.mem_filter.1 hp).1).alternatives
      exact ⟨⟨p.name, ns⟩, rfl, hns⟩
    have ho : ∃ os, List.Forall₂ Decoded g.oneOfs os := by
      refine exists_forall₂.2 fun p hp => ?_
      obtain ⟨ts, hts⟩ := Option.isSome_iff_exists.1 (isSome_of_mem_oneOfs p hp)
      have hbody := Production.terminals?_eq_some_iff.1 hts
      obtain ⟨us, hus⟩ := exists_forall₂.2 ((h p (List.mem_filter.1 hp).1).terminals ts hbody)
      exact ⟨⟨p.name, us⟩, rfl, ts, hbody, hus⟩
    obtain ⟨ss, hss⟩ := hs
    obtain ⟨os, hos⟩ := ho
    exact ⟨_, .complete g.sorts hss hos⟩
  · rintro ⟨d, ⟨hg, hs, ho⟩⟩ p hp
    obtain ⟨rfl, rfl⟩ := hg.eq
    cases hts : p.terminals? with
    | none =>
      have hmem : p ∈ g.sequences := List.mem_filter.2 ⟨hp, by simp [hts]⟩
      obtain ⟨s, hs⟩ := exists_forall₂.1 ⟨_, hs⟩ p hmem
      refine ⟨exists_forall₂.1 ⟨_, hs.body⟩, fun ts hbody => ?_⟩
      rw [Production.terminals?_eq_some_iff.2 hbody] at hts
      exact absurd hts (by simp)
    | some ts =>
      have hmem : p ∈ g.oneOfs := List.mem_filter.2 ⟨hp, by simp [hts]⟩
      obtain ⟨o, -, ts', hbody, hus⟩ := exists_forall₂.1 ⟨_, ho⟩ p hmem
      refine ⟨by simp [Production.alternatives, hbody], fun ts'' hbody' => ?_⟩
      obtain rfl : ts' = ts'' := by simpa [hbody] using hbody'
      exact exists_forall₂.1 ⟨_, hus⟩

end Pieces

/-! ### Steps and runs -/

/-- The pieces that a step is to add. -/
def Step.pieces : Step → List Grammar
  | .add g => [g]
  | .extend gs => gs
  | .build => []

/-- What the pieces of a step contribute, up to the first that meets an obstacle. -/
inductive Takes : List Grammar → List Document → Option Obstacle → Prop
  | nil : Takes [] [] none
  | cons {g : Grammar} {r : List Grammar} {d : Document} {ds : List Document} {o : Option Obstacle}
      (h : Contributes g d none) (hr : Takes r ds o) : Takes (g :: r) (d :: ds) o
  | stop {g : Grammar} {r : List Grammar} {d : Document} {obstacle : Obstacle}
      (h : Contributes g d (some obstacle)) : Takes (g :: r) [d] (some obstacle)

/-- What a step answers, given what is held before it and the obstacle that it meets. -/
def Step.answer (held : Document) (o : Option Obstacle) : Step → Outcome
  | .build => .built held
  | _ => .ofObstacle? o

variable {o : Option Obstacle}

theorem extend_of_takes {gs : List Grammar} {ds : List Document} (a : Assembly)
    (h : Takes gs ds o) : a.extend gs = (a.followedBy ds, o) := by
  induction h generalizing a with
  | nil => rw [extend, Document.followedBy_nil]
  | @cons g r d ds o hg _ ih =>
    calc a.extend (g :: r)
        = Assembly.extend (a.followedBy [d]) r := by rw [extend, add_of_contributes a hg]
      _ = ((a.followedBy [d]).followedBy ds, o) := ih _
      _ = (a.followedBy (d :: ds), o) := by rw [← Document.followedBy_append]; rfl
  | stop hg => rw [extend, add_of_contributes a hg]

theorem exists_takes (gs : List Grammar) : ∃ ds o, Takes gs ds o := by
  induction gs with
  | nil => exact ⟨_, _, .nil⟩
  | cons g gs ih =>
    obtain ⟨d, o, hg⟩ := exists_contributes g
    cases o with
    | none =>
      obtain ⟨ds, o, hgs⟩ := ih
      exact ⟨_, _, .cons hg hgs⟩
    | some obstacle => exact ⟨_, _, .stop hg⟩

/-- Pieces that normalize are all added. -/
theorem extend_of_normalizes {gs : List Grammar} (a : Assembly) (h : ∀ g ∈ gs, g.Normalizes) :
    (a.extend gs).2 = none := by
  induction gs generalizing a with
  | nil => rfl
  | cons g gs ih =>
    obtain ⟨hg, hgs⟩ := List.forall_mem_cons.1 h
    obtain ⟨d, hd⟩ := normalizes_iff.1 hg
    rw [extend, add_of_contributes a hd]
    exact ih _ hgs

/-- A step appends what its pieces contribute and answers for the obstacle that they meet. -/
theorem step_of_takes {s : Step} {ds : List Document} (a : Assembly) (h : Takes s.pieces ds o) :
    a.step s = (a.followedBy ds, s.answer a o) := by
  cases s with
  | build =>
    cases h
    rw [Document.followedBy_nil]
    rfl
  | extend gs =>
    have h : Takes gs ds o := h
    rw [step, extend_of_takes a h]
    rfl
  | add g =>
    have h : Takes [g] ds o := h
    have hadd : a.extend [g] = a.add g := by
      rw [extend]
      cases a.add g with
      | mk a o => cases o <;> rfl
    rw [step, ← hadd, extend_of_takes a h]
    rfl

theorem run_cons (a : Assembly) (s : Step) (steps : List Step) :
    a.run (s :: steps) = Assembly.run (a.step s).1 steps := rfl

/-- After any steps an assembly holds what it held before them and then, in order, what the pieces of
each step contribute. The step after them appends what its own pieces contribute, stops at the first
obstacle among them, and, if it asks for the document, changes nothing and gives what is held. -/
theorem run_holds (a : Assembly) (steps : List Step) :
    (∃ rows : List (List Document × Option Obstacle),
      List.Forall₂ (fun s row => Takes s.pieces row.1 row.2) steps rows ∧
        a.run steps = a.followedBy (rows.flatMap (·.1))) ∧
      (∀ s, ∃ ds o, Takes s.pieces ds o ∧
        (a.run steps).step s = ((a.run steps).followedBy ds, s.answer (a.run steps) o)) ∧
      (a.run steps).step .build = (a.run steps, .built (a.run steps)) := by
  refine ⟨?_, fun s => ?_, rfl⟩
  · induction steps generalizing a with
    | nil => exact ⟨[], .nil, a.followedBy_nil.symm⟩
    | cons s steps ih =>
      obtain ⟨ds, o, hs⟩ := exists_takes s.pieces
      obtain ⟨rows, hrows, hrun⟩ := ih (a.followedBy ds)
      refine ⟨(ds, o) :: rows, .cons hs hrows, ?_⟩
      rw [run_cons, step_of_takes a hs, hrun, List.flatMap_cons, Document.followedBy_append]
  · obtain ⟨ds, o, hs⟩ := exists_takes s.pieces
    exact ⟨ds, o, hs, step_of_takes _ hs⟩

end Assembly

end SpecGrammar
