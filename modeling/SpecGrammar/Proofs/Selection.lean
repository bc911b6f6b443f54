import SpecGrammar.Proofs.Traversal
import SpecGrammar.Selection

/-!
# What a selection selects

* `Fragment.outside?_natCast`: at depths that count outwards the rules on sections always answer;
* `Selection.judge_eq_tryRules`: the verdict on a fragment is that of the first rule in the order that
  rejects it, where only the gate keeps something in mind;
* `Selection.pass?_reaching`: the gate on its own, of the fragments that the rules before it accept, lets
  through those that are not rejected by it;
* `Selection.judge_spec`: what one fragment makes of the gate, and when it is accepted;
* `Selection.filter_judgeAll`: which positions of a list are accepted, whatever the gate is before it;
* `Selection.answers_eq`: what any sequence of calls returns.
-/

namespace SpecGrammar

namespace Fragment

variable {f : Fragment}

theorem sectionId?_natCast (f : Fragment) (depth : Nat) :
    f.sectionId? depth = some (f.sectionIds.getD depth none) := by
  unfold sectionId?
  split
  case isTrue => simp
  case isFalse h =>
    have hlen : f.sectionIds.length ≤ depth := by omega
    rw [List.getD_eq_getElem?_getD, List.getElem?_eq_none hlen, Option.getD_none]

theorem isDefinition_iff : f.isDefinition = true ↔ f.grammarType = some "definition".toList := by
  simp [isDefinition]

/-- The identifier at none of the depths is one of the sections. -/
def AvoidsAt (f : Fragment) (sections : List (List Char)) (depths : List Nat) : Prop :=
  ∀ depth ∈ depths, ∀ id ∈ sections, f.sectionId? depth ≠ some (some id)

theorem isOutside_iff {sections : List (List Char)} {depths : List Nat} :
    f.isOutside sections depths = true ↔ f.AvoidsAt sections depths := by
  simp only [isOutside, List.all_eq_true, AvoidsAt, sectionId?_natCast]
  refine forall₂_congr fun depth _ => ?_
  cases f.sectionIds.getD depth none with
  | none => simp
  | some id =>
    simp only [Option.any_some, Bool.not_eq_true', List.contains_eq_mem, decide_eq_false_iff_not,
      ne_eq, Option.some.injEq]
    grind

/-- At depths that count from the innermost element outwards there is always an answer. -/
theorem outside?_natCast (f : Fragment) (sections : List (List Char)) (depths : List Nat) :
    f.outside? sections (depths.map Nat.cast) = some (f.isOutside sections depths) := by
  induction depths with
  | nil => rfl
  | cons depth depths ih =>
    rw [List.map_cons, outside?, sectionId?_natCast, isOutside, List.all_cons]
    simp only [Option.bind_eq_bind, Option.bind_some, ih]
    cases (f.sectionIds.getD depth none).any sections.contains <;> rfl

end Fragment

namespace Selection

variable {s : Selection} {f : Fragment} {isOpen : Bool}

/-! ### Rules one after the other -/

/-- The gate of a selection. -/
def gate (s : Selection) (isOpen : Bool) : Gate := { startSection := s.startSection, isOpen }

@[simp]
theorem isOpen_gate (s : Selection) (isOpen : Bool) : (s.gate isOpen).isOpen = isOpen := rfl

/-- At its usual depth the gate always answers. -/
theorem step?_gate (s : Selection) (isOpen : Bool) (f : Fragment) :
    (s.gate isOpen).step? f = some (s.gate (isOpen || s.opens f)) := by
  have hid : f.sectionId? startDepth = some (f.sectionIds.getD startDepth none) :=
    f.sectionId?_natCast startDepth
  cases isOpen <;> simp [gate, Gate.step?, Gate.opens?, opens, hid]

/-- Whether a rule accepts a fragment, and the gate after that; nothing if a depth counts too far. -/
def tryRule (s : Selection) (f : Fragment) (g : Gate) : Rule → Option (Bool × Gate)
  | .definition => some (f.isDefinition, g)
  | .notExample => some (!f.isExample, g)
  | .gate => (g.step? f).map fun g => (g.isOpen, g)
  | .excludedSections =>
    (f.outside? s.excludedSections (excludedDepths.map Nat.cast)).map fun accepts => (accepts, g)
  | .webExtensions => (f.outside? s.webSections (webDepths.map Nat.cast)).map fun accepts => (accepts, g)

/-- The first of some rules that rejects a fragment, and the gate after that. -/
def tryRules (s : Selection) (f : Fragment) (g : Gate) : List Rule → Option (Option Rule × Gate)
  | [] => some (none, g)
  | rule :: r => do
    match ← s.tryRule f g rule with
    | (true, g) => s.tryRules f g r
    | (false, g) => return (some rule, g)

/-- The verdict on a fragment is that of the rules, each on its own and with the gate that the rules before
it leave. -/
theorem judge_eq_tryRules (s : Selection) (isOpen : Bool) (f : Fragment) :
    s.tryRules f (s.gate isOpen) Rule.all =
      some ((s.judge isOpen f).1, s.gate (s.judge isOpen f).2) := by
  have hexcluded := f.outside?_natCast s.excludedSections excludedDepths
  have hweb := f.outside?_natCast s.webSections webDepths
  cases hdef : f.isDefinition <;> cases hexample : f.isExample <;>
    cases hgate : isOpen || s.opens f <;>
    cases houtside : f.isOutside s.excludedSections excludedDepths <;>
    cases hwithout : f.isOutside s.webSections webDepths <;>
    simp [judge, Rule.all, tryRules, tryRule, step?_gate, hexcluded, hweb, hdef, hexample, hgate,
      houtside, hwithout]

/-! ### The gate on its own -/

/-- Whether the rules before the gate accept a fragment. -/
def reaches (f : Fragment) : Bool := f.isDefinition && !f.isExample

/-- A fragment that does not come to the gate leaves it as it is. -/
theorem judge_of_not_reaches (h : reaches f = false) (s : Selection) (isOpen : Bool) :
    (s.judge isOpen f).2 = isOpen := by
  cases hdef : f.isDefinition <;> cases hexample : f.isExample <;> simp_all [judge, reaches]

/-- A fragment that comes to the gate is rejected there just if the gate is closed after it. -/
theorem judge_of_reaches (h : reaches f = true) (s : Selection) (isOpen : Bool) :
    (s.judge isOpen f).2 = (isOpen || s.opens f) ∧
      ((s.judge isOpen f).1 != some .gate) = (isOpen || s.opens f) := by
  obtain ⟨hdef, hexample⟩ : f.isDefinition = true ∧ f.isExample = false := by
    simpa [reaches] using h
  cases hgate : isOpen || s.opens f <;>
    cases houtside : f.isOutside s.excludedSections excludedDepths <;>
    cases hwithout : f.isOutside s.webSections webDepths <;>
    simp [judge, hdef, hexample, hgate, houtside, hwithout]

theorem judgeAll_cons (s : Selection) (isOpen : Bool) (f : Fragment) (r : List Fragment) :
    s.judgeAll isOpen (f :: r) =
      (f, (s.judge isOpen f).1) :: s.judgeAll (s.judge isOpen f).2 r := rfl

/-- Of the fragments that come to it the gate lets through those that are not rejected by it. -/
theorem pass?_reaching (s : Selection) (isOpen : Bool) (fragments : List Fragment) :
    ((s.gate isOpen).pass? (fragments.filter reaches)).map (List.map Gate.isOpen) =
      some (((s.judgeAll isOpen fragments).filter fun judged => reaches judged.1).map
        fun judged => judged.2 != some .gate) := by
  induction fragments generalizing isOpen with
  | nil => rfl
  | cons f r ih =>
    rw [judgeAll_cons]
    cases hf : reaches f with
    | false =>
      have hopen := judge_of_not_reaches hf s isOpen
      rw [List.filter_cons_of_neg (by simp [hf]), List.filter_cons_of_neg (by simp [hf]), hopen]
      exact ih isOpen
    | true =>
      obtain ⟨hopen, hverdict⟩ := judge_of_reaches hf s isOpen
      have hr := ih (isOpen || s.opens f)
      rw [List.filter_cons_of_pos (by simp [hf]), List.filter_cons_of_pos (by simp [hf]), Gate.pass?,
        step?_gate, hopen, List.map_cons, hverdict]
      obtain ⟨gates, hgates, hgates'⟩ := Option.map_eq_some_iff.1 hr
      simp [hgates, ← hgates']

/-! ### One fragment -/

/-- A definition that is no example and stands in the start section. -/
structure Opener (s : Selection) (f : Fragment) : Prop where
  definition : f.grammarType = some "definition".toList
  notExample : f.isExample = false
  start : f.sectionId? 1 = some (some s.startSection)

/-- A definition that is no example and stands outside the sections left out. -/
structure Admits (s : Selection) (f : Fragment) : Prop where
  definition : f.grammarType = some "definition".toList
  notExample : f.isExample = false
  notExcluded : f.AvoidsAt s.excludedSections [0, 1]
  notWeb : f.AvoidsAt s.webSections [2]

theorem opens_iff : s.opens f = true ↔ f.sectionId? 1 = some (some s.startSection) := by
  have h : f.sectionId? 1 = some (f.sectionIds.getD 1 none) := f.sectionId?_natCast 1
  rw [h, Option.some.injEq, opens, beq_iff_eq, startDepth]

/-- A fragment is accepted if the gate is open for it and it is admitted, and leaves the gate open if it
was open before or the fragment opens it. -/
theorem judge_spec (s : Selection) (isOpen : Bool) (f : Fragment) :
    ((s.judge isOpen f).2 = true ↔ isOpen = true ∨ s.Opener f) ∧
      ((s.judge isOpen f).1 = none ↔ s.Admits f ∧ (isOpen = true ∨ s.Opener f)) := by
  have hopener : s.Opener f ↔ f.isDefinition = true ∧ f.isExample = false ∧ s.opens f = true := by
    rw [Fragment.isDefinition_iff, opens_iff]
    exact ⟨fun h => ⟨h.1, h.2, h.3⟩, fun h => ⟨h.1, h.2.1, h.2.2⟩⟩
  have hadmits : s.Admits f ↔ f.isDefinition = true ∧ f.isExample = false ∧
      f.isOutside s.excludedSections excludedDepths = true ∧
      f.isOutside s.webSections webDepths = true := by
    rw [Fragment.isDefinition_iff, Fragment.isOutside_iff, Fragment.isOutside_iff]
    exact ⟨fun h => ⟨h.1, h.2, h.3, h.4⟩, fun h => ⟨h.1, h.2.1, h.2.2.1, h.2.2.2⟩⟩
  rw [hopener, hadmits]
  cases hdef : f.isDefinition <;> cases hexample : f.isExample <;> cases isOpen <;>
    cases hgate : s.opens f <;>
    cases hexcluded : f.isOutside s.excludedSections excludedDepths <;>
    cases hweb : f.isOutside s.webSections webDepths <;>
    simp [judge, hdef, hexample, hgate, hexcluded, hweb]

/-! ### Lists of fragments -/

instance (f : Fragment) (sections : List (List Char)) (depths : List Nat) :
    Decidable (f.AvoidsAt sections depths) := by
  unfold Fragment.AvoidsAt
  infer_instance

instance (s : Selection) (f : Fragment) : Decidable (s.Opener f) :=
  decidable_of_iff (f.grammarType = some "definition".toList ∧ f.isExample = false ∧
    f.sectionId? 1 = some (some s.startSection))
    ⟨fun h => ⟨h.1, h.2.1, h.2.2⟩, fun h => ⟨h.1, h.2, h.3⟩⟩

instance (s : Selection) (f : Fragment) : Decidable (s.Admits f) :=
  decidable_of_iff (f.grammarType = some "definition".toList ∧ f.isExample = false ∧
    f.AvoidsAt s.excludedSections [0, 1] ∧ f.AvoidsAt s.webSections [2])
    ⟨fun h => ⟨h.1, h.2.1, h.2.2.1, h.2.2.2⟩, fun h => ⟨h.1, h.2, h.3, h.4⟩⟩

/-- The fragments at the positions that a selection admits, from the first opener on, or from the start
on if the gate is open there. -/
def admittedFrom (s : Selection) (isOpen : Bool) (fragments : List Fragment) : List Fragment :=
  (positions fun i => s.Admits (fragments.get i) ∧
    (isOpen = true ∨ ∃ j ≤ i, s.Opener (fragments.get j))).map fragments.get

theorem admittedFrom_cons (s : Selection) {isOpen next : Bool} (f : Fragment) (r : List Fragment)
    (hnext : next = true ↔ isOpen = true ∨ s.Opener f) :
    s.admittedFrom isOpen (f :: r) =
      (if s.Admits f ∧ next = true then [f] else []) ++ s.admittedFrom next r := by
  have hfirst : (∃ j ≤ (0 : Fin (r.length + 1)), s.Opener ((f :: r).get j)) ↔ s.Opener f := by
    simp
  have hlater : ∀ i : Fin r.length, (∃ j ≤ i.succ, s.Opener ((f :: r).get j)) ↔
      s.Opener f ∨ ∃ j ≤ i, s.Opener (r.get j) := by
    intro i
    rw [Fin.exists_fin_succ]
    simp
  have hrest : ∀ i : Fin r.length,
      (s.Admits ((f :: r).get i.succ) ∧
          (isOpen = true ∨ ∃ j ≤ i.succ, s.Opener ((f :: r).get j)) ↔
        s.Admits (r.get i) ∧ (next = true ∨ ∃ j ≤ i, s.Opener (r.get j))) := by
    intro i
    rw [hlater, hnext, or_assoc]
    rfl
  refine (map_get_positions_cons f r _).trans (congrArg₂ (· ++ ·) ?_ ?_)
  · exact if_congr (and_congr_right' ((or_congr_right hfirst).trans hnext.symm)) rfl rfl
  · exact congrArg (List.map r.get) (positions_congr hrest)

/-- What the rules accept are the admitted fragments from the first opener on. -/
theorem filter_judgeAll (s : Selection) (isOpen : Bool) (fragments : List Fragment) :
    ((s.judgeAll isOpen fragments).filter fun judged => judged.2 == none).map (·.1) =
      s.admittedFrom isOpen fragments := by
  induction fragments generalizing isOpen with
  | nil => rfl
  | cons f r ih =>
    obtain ⟨hopen, hverdict⟩ := s.judge_spec isOpen f
    rw [← hopen] at hverdict
    rw [s.admittedFrom_cons f r hopen, ← ih, judgeAll_cons, List.filter_cons]
    simp only [beq_iff_eq, hverdict]
    split <;> rfl

/-! ### Calls -/

/-- What calls return, made one after the other with a list of fragments each. -/
def answers (s : Selection) (calls : List (List Fragment)) : List (List Fragment) :=
  calls.map fun fragments => (s.select fragments).1

/-- Each call returns, in order and each once, the fragments at exactly the positions that it admits and
at or before which there is an opener, whatever the calls before it were. -/
theorem answers_eq (s : Selection) (calls : List (List Fragment)) :
    s.answers calls = calls.map fun fragments =>
      (positions fun i => s.Admits (fragments.get i) ∧
        ∃ j ≤ i, s.Opener (fragments.get j)).map fragments.get := by
  refine List.map_congr_left fun fragments _ => ?_
  calc (s.select fragments).1
      = s.admittedFrom false fragments := s.filter_judgeAll false fragments
    _ = _ := by
      rw [admittedFrom]
      congr 1
      exact positions_congr fun i => by simp

end Selection

end SpecGrammar
