import SpecGrammar.Document.Normal
import SpecGrammar.Proofs.Traversal

/-!
# What normalization means

* `Expressible`, `nodes`: which symbols have a normalized form, and its nodes, said for each symbol on
  its own and of all symbols, those that the notation cannot say included;
* `Obstructs`: what is wrong with a symbol that has none;
* `core`: what of a symbol its normalized form depends on;
* `normalize_means`: symbols in a row normalize just if each of them does, to the nodes of each in order,
  and otherwise the first that does not is to blame.
-/

namespace SpecGrammar

namespace Notation.Symbol

/-! ### Members of sets -/

/-- The text of a literal. -/
def literal? : Symbol → Option (List Char)
  | .terminal text => some text
  | _ => none

/-- Whether a symbol is the nonterminal that stands for a line break. -/
def isLineBreak : Symbol → Bool
  | .nonterminal name _ _ => name == lineTerminator
  | _ => false

/-- A member that a set may have. -/
def Permitted (s : Symbol) : Prop := s.literal?.isSome = true ∨ s.isLineBreak = true

instance : DecidablePred Permitted := fun s => by unfold Permitted; infer_instance

/-! ### Symbols -/

def Expressible : Symbol → Prop
  | .prose _ => False
  | .noSymbolHere members => ∀ m ∈ members, m.Permitted
  | .butNot left _ => left.Expressible
  | _ => True

/-- The normalized form of a symbol that has one. -/
def nodes : Symbol → List Node
  | .terminal text => [.literal text]
  | .namedCharacter text => [.symbol text]
  | .nonterminal name _ optional => [.name name optional]
  | .noSymbolHere members =>
    if members.any isLineBreak then [] else [.oneOf (members.filterMap literal?)]
  | .butNot left _ => left.nodes
  | _ => []

/-- What keeps a symbol from having a normalized form: words, or the first member of a set that may not
be one. -/
inductive Obstructs : Symbol → Inexpressible → Prop
  | prose (text : List Char) : Obstructs (.prose text) (.prose text)
  | member {before after : List Symbol} {m : Symbol} (hbefore : ∀ b ∈ before, b.Permitted)
      (hm : ¬ m.Permitted) : Obstructs (.noSymbolHere (before ++ m :: after)) (.member m)
  | left {s : Symbol} {exclusions : List Symbol} {e : Inexpressible} (h : s.Obstructs e) :
      Obstructs (.butNot s exclusions) e

/-- A nonterminal without its arguments. -/
def bare : Symbol → Symbol
  | .nonterminal name _ optional => .nonterminal name [] optional
  | s => s

/-- A symbol without arguments, exclusions and what is compared with. -/
def core : Symbol → Symbol
  | .lookahead _ _ => .lookahead [] []
  | .noSymbolHere members => .noSymbolHere (members.map bare)
  | .butNot left _ => .butNot left.core []
  | s => s.bare

/-! ### What does not matter -/

theorem literal?_bare (s : Symbol) : s.bare.literal? = s.literal? := by cases s <;> rfl

theorem isLineBreak_bare (s : Symbol) : s.bare.isLineBreak = s.isLineBreak := by cases s <;> rfl

theorem permitted_bare {s : Symbol} : s.bare.Permitted ↔ s.Permitted := by
  rw [Permitted, literal?_bare, isLineBreak_bare]
  rfl

theorem expressible_core {s : Symbol} : s.core.Expressible ↔ s.Expressible := by
  fun_induction core s with
  | case1 => rfl
  | case2 members => simp [Expressible, permitted_bare]
  | case3 left _ ih => exact ih
  | case4 s => cases s <;> rfl

theorem nodes_core (s : Symbol) : s.core.nodes = s.nodes := by
  fun_induction core s with
  | case1 => rfl
  | case2 members =>
    have hbreak : isLineBreak ∘ bare = isLineBreak := funext isLineBreak_bare
    have hliteral : literal? ∘ bare = literal? := funext literal?_bare
    rw [nodes, nodes, List.any_map, hbreak, List.filterMap_map, hliteral]
  | case3 left _ ih => exact ih
  | case4 s => cases s <;> rfl

theorem length_nodes_le (s : Symbol) : s.nodes.length ≤ 1 := by
  fun_induction nodes s with
  | case6 _ _ ih => exact ih
  | _ => simp

end Notation.Symbol

open Notation (Symbol)

variable {s : Symbol} {members symbols : List Symbol} {ns : List Node} {e : Inexpressible}

/-! ### Sets -/

theorem memberOption_eq_ok_iff {o : Option (List Char)} :
    memberOption s = .ok o ↔ s.Permitted ∧ s.literal? = o := by
  cases s with
  | nonterminal name =>
    by_cases h : name = lineTerminator <;>
      simp [memberOption, Symbol.Permitted, Symbol.literal?, Symbol.isLineBreak, h]
  | _ => simp [memberOption, Symbol.Permitted, Symbol.literal?, Symbol.isLineBreak]

theorem memberOption_eq_error_iff : memberOption s = .error e ↔ ¬ s.Permitted ∧ .member s = e := by
  cases s with
  | nonterminal name =>
    by_cases h : name = lineTerminator <;>
      simp [memberOption, Symbol.Permitted, Symbol.literal?, Symbol.isLineBreak, h]
  | _ => simp [memberOption, Symbol.Permitted, Symbol.literal?, Symbol.isLineBreak]

/-- The texts of the members, unless one of them stands for a line break. -/
theorem mapM_literal? (h : ∀ m ∈ members, m.Permitted) :
    (members.map Symbol.literal?).mapM id =
      if members.any Symbol.isLineBreak then none else some (members.filterMap Symbol.literal?) := by
  induction members with
  | nil => rfl
  | cons m r ih =>
    obtain ⟨hm, hr⟩ := List.forall_mem_cons.1 h
    rw [List.map_cons, List.mapM_cons, ih hr, List.any_cons, List.filterMap_cons]
    cases hliteral : m.literal? with
    | none =>
      have hbreak : m.isLineBreak = true := by simpa [Symbol.Permitted, hliteral] using hm
      simp [hbreak]
    | some text =>
      have hbreak : m.isLineBreak = false := by
        cases m <;> first | rfl | cases hliteral
      cases r.any Symbol.isLineBreak <;> simp [hbreak]

theorem normalizeSet_eq_ok_iff :
    normalizeSet members = .ok ns ↔
      (∀ m ∈ members, m.Permitted) ∧ (Symbol.noSymbolHere members).nodes = ns := by
  unfold normalizeSet
  rw [bind_eq_ok_iff]
  simp only [mapM_eq_ok_iff_forall memberOption_eq_ok_iff]
  constructor
  · rintro ⟨_, ⟨hp, rfl⟩, h⟩
    rw [mapM_literal? hp] at h
    rw [Symbol.nodes]
    cases hbreak : members.any Symbol.isLineBreak <;> rw [hbreak] at h <;>
      exact ⟨hp, Except.ok.inj h⟩
  · rintro ⟨hp, rfl⟩
    refine ⟨_, ⟨hp, rfl⟩, ?_⟩
    rw [mapM_literal? hp, Symbol.nodes]
    cases members.any Symbol.isLineBreak <;> rfl

theorem normalizeSet_eq_error_iff :
    normalizeSet members = .error e ↔ (Symbol.noSymbolHere members).Obstructs e := by
  have hmap : normalizeSet members = .error e ↔ members.mapM memberOption = .error e :=
    bind_pure_eq_error_iff
  rw [hmap, mapM_eq_error_iff_forall memberOption_eq_ok_iff]
  simp only [memberOption_eq_error_iff]
  constructor
  · rintro ⟨before, m, after, rfl, hbefore, hm, rfl⟩
    exact .member hbefore hm
  · intro h
    cases h with
    | member hbefore hm => exact ⟨_, _, _, rfl, hbefore, hm, rfl⟩

/-! ### Symbols -/

theorem normalizeSymbol_eq_ok_iff : normalizeSymbol s = .ok ns ↔ s.Expressible ∧ s.nodes = ns := by
  fun_induction normalizeSymbol s with
  | case5 members => exact normalizeSet_eq_ok_iff
  | case6 left _ ih => exact ih
  | _ => simp [Symbol.Expressible, Symbol.nodes]

theorem normalizeSymbol_eq_error_iff : normalizeSymbol s = .error e ↔ s.Obstructs e := by
  fun_induction normalizeSymbol s with
  | case5 members => exact normalizeSet_eq_error_iff
  | case6 left _ ih => exact ih.trans ⟨.left, fun | .left h => h⟩
  | case8 text => exact ⟨fun h => Except.error.inj h ▸ .prose text, fun | .prose _ => rfl⟩
  | _ => exact ⟨nofun, nofun⟩

/-! ### Symbols in a row -/

theorem normalize_eq_mapM (symbols : List Symbol) :
    normalize symbols = (symbols.mapM normalizeSymbol).map List.flatten := by
  induction symbols with
  | nil => rfl
  | cons s r ih =>
    rw [normalize, List.mapM_cons, ih]
    cases normalizeSymbol s <;> cases r.mapM normalizeSymbol <;> rfl

theorem normalize_eq_ok_iff :
    normalize symbols = .ok ns ↔ (∀ s ∈ symbols, s.Expressible) ∧ symbols.flatMap Symbol.nodes = ns := by
  have hall (pieces : List (List Node)) : symbols.mapM normalizeSymbol = .ok pieces ↔ _ :=
    mapM_eq_ok_iff_forall normalizeSymbol_eq_ok_iff
  rw [normalize_eq_mapM, List.flatMap_def]
  constructor
  · intro h
    cases hm : symbols.mapM normalizeSymbol with
    | error e =>
      rw [hm] at h
      cases h
    | ok pieces =>
      obtain ⟨hs, rfl⟩ := (hall pieces).1 hm
      rw [hm] at h
      exact ⟨hs, Except.ok.inj h⟩
  · rintro ⟨hs, rfl⟩
    rw [(hall _).2 ⟨hs, rfl⟩]
    rfl

theorem normalize_eq_error_iff :
    normalize symbols = .error e ↔
      ∃ before s after, symbols = before ++ s :: after ∧ (∀ b ∈ before, b.Expressible) ∧
        s.Obstructs e := by
  simp only [← normalizeSymbol_eq_error_iff]
  rw [← mapM_eq_error_iff_forall normalizeSymbol_eq_ok_iff, normalize_eq_mapM]
  cases symbols.mapM normalizeSymbol <;> simp [Except.map]

theorem length_flatMap_nodes_le (symbols : List Symbol) :
    (symbols.flatMap Symbol.nodes).length ≤ symbols.length := by
  induction symbols with
  | nil => simp
  | cons s r ih =>
    have hs := s.length_nodes_le
    rw [List.flatMap_cons, List.length_append, List.length_cons]
    omega

/-- Symbols normalize just if each of them is expressible, to the nodes of each in order, of which there
are no more than symbols; otherwise the first that is not says why. So two rows of symbols normalize
together as they do apart, and symbols that differ in what is left out of them normalize alike. -/
theorem normalize_means (symbols : List Symbol) :
    ((∃ ns, normalize symbols = .ok ns) ↔ ∀ s ∈ symbols, s.Expressible) ∧
      (∀ ns, normalize symbols = .ok ns →
        ns = symbols.flatMap Symbol.nodes ∧ ns.length ≤ symbols.length) ∧
      (∀ e, normalize symbols = .error e ↔
        ∃ before s after, symbols = before ++ s :: after ∧ (∀ b ∈ before, b.Expressible) ∧
          s.Obstructs e) ∧
      (∀ left right, symbols = left ++ right → ∀ ns, normalize symbols = .ok ns ↔
        ∃ l r, normalize left = .ok l ∧ normalize right = .ok r ∧ l ++ r = ns) ∧
      ∀ others, others.map Symbol.core = symbols.map Symbol.core → ∀ ns,
        normalize others = .ok ns ↔ normalize symbols = .ok ns := by
  simp only [normalize_eq_ok_iff]
  refine ⟨by simp, ?_, fun e => normalize_eq_error_iff, ?_, ?_⟩
  · rintro ns ⟨-, rfl⟩
    exact ⟨rfl, length_flatMap_nodes_le symbols⟩
  · rintro left right rfl ns
    simp only [List.forall_mem_append, List.flatMap_append]
    constructor
    · rintro ⟨⟨hl, hr⟩, rfl⟩
      exact ⟨_, _, ⟨hl, rfl⟩, ⟨hr, rfl⟩, rfl⟩
    · rintro ⟨_, _, ⟨hl, rfl⟩, ⟨hr, rfl⟩, rfl⟩
      exact ⟨⟨hl, hr⟩, rfl⟩
  · intro others hcore ns
    -- both conditions can be said of what matters
    have hexpressible (l : List Symbol) :
        (∀ s ∈ l, s.Expressible) ↔ ∀ s ∈ l.map Symbol.core, s.Expressible := by
      simp [Symbol.expressible_core]
    have hnodes (l : List Symbol) :
        l.flatMap Symbol.nodes = (l.map Symbol.core).flatMap Symbol.nodes := by
      simp [List.flatMap_map, Symbol.nodes_core]
    rw [hexpressible others, hexpressible symbols, hnodes others, hnodes symbols, hcore]

end SpecGrammar
