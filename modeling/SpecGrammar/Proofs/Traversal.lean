import Mathlib.Data.List.FinRange
import Mathlib.Data.List.Forall2

/-!
# Going through lists

Positions at which something holds, from left to right, and what comes of going on up to the first
failure. Statements on what is taken from a list, in which order and how often, are made about positions.

* `map_get_positions_cons`: what stands at the positions of a list with one more in front;
* `bind_eq_ok_iff`, `bind_pure_eq_ok_iff`: what it means that two steps succeed one after the other;
* `mapM_eq_ok_iff`: what it means that no member fails;
* `mapM_eq_error_iff`: what it means that one does;
* `mapM_eq_ok_iff_forall`, `mapM_eq_error_iff_forall`: the same where it is known which members fail and
  what the others give.
-/

namespace SpecGrammar

/-! ### Positions -/

section Positions

variable {n : Nat}

/-- The positions at which something holds, each once and in order. -/
def positions (p : Fin n → Prop) [DecidablePred p] : List (Fin n) := (List.finRange n).filter p

theorem mem_positions (p : Fin n → Prop) [DecidablePred p] {i : Fin n} : i ∈ positions p ↔ p i := by
  simp [positions]

theorem positions_succ (p : Fin (n + 1) → Prop) [DecidablePred p] :
    positions p = (if p 0 then [0] else []) ++ (positions fun i => p i.succ).map Fin.succ := by
  rw [positions, List.finRange_succ, List.filter_cons, List.filter_map, positions]
  split <;> simp_all [Function.comp_def]

theorem positions_congr {p q : Fin n → Prop} [DecidablePred p] [DecidablePred q]
    (h : ∀ i, p i ↔ q i) : positions p = positions q := by
  simp only [positions, h]

/-- What stands at the positions of a list with one more in front. -/
theorem map_get_positions_cons {α : Type} (a : α) (l : List α) (p : Fin (l.length + 1) → Prop)
    [DecidablePred p] :
    (positions p).map (a :: l).get =
      (if p 0 then [a] else []) ++ (positions fun i => p i.succ).map l.get := by
  rw [positions_succ, List.map_append, List.map_map]
  split <;> rfl

end Positions

/-! ### Up to the first failure -/

variable {ε α β : Type} {f : α → Except ε β} {l : List α}

theorem bind_eq_ok_iff {x : Except ε α} {b : β} :
    x >>= f = .ok b ↔ ∃ a, x = .ok a ∧ f a = .ok b := by
  cases x <;> simp [bind, Except.bind]

/-- A step whose result is taken further without a step of its own. -/
theorem bind_pure_eq_ok_iff {x : Except ε α} {g : α → β} {b : β} :
    (x >>= fun a => pure (g a)) = .ok b ↔ ∃ a, x = .ok a ∧ g a = b := by
  cases x <;> simp [bind, Except.bind, pure, Except.pure]

theorem bind_pure_eq_error_iff {x : Except ε α} {g : α → β} {e : ε} :
    (x >>= fun a => pure (g a)) = .error e ↔ x = .error e := by
  cases x <;> simp [bind, Except.bind, pure, Except.pure]

theorem mapError_eq_error_iff {ε' : Type} {x : Except ε α} {g : ε → ε'} {e : ε'} :
    x.mapError g = .error e ↔ ∃ cause, x = .error cause ∧ g cause = e := by
  cases x <;> simp [Except.mapError]

/-- A list is gone through if each of its members is, and gives what its members give. -/
theorem mapM_eq_ok_iff {r : List β} :
    l.mapM f = .ok r ↔ List.Forall₂ (fun a b => f a = .ok b) l r := by
  induction l generalizing r with
  | nil =>
    constructor
    · intro h
      obtain rfl := Except.ok.inj h
      exact .nil
    · rintro ⟨⟩
      rfl
  | cons a l ih =>
    have hstep : (a :: l).mapM f = .ok r ↔
        ∃ b q, f a = .ok b ∧ l.mapM f = .ok q ∧ b :: q = r := by
      rw [List.mapM_cons]
      cases f a <;> cases l.mapM f <;> simp [bind, Except.bind, pure, Except.pure]
    rw [hstep]
    constructor
    · rintro ⟨b, q, hb, hq, rfl⟩
      exact .cons hb (ih.1 hq)
    · rintro (_ | ⟨hb, hq⟩)
      exact ⟨_, _, hb, ih.2 hq, rfl⟩

/-- Two lists are gone through one after the other. -/
theorem mapM_append_eq_ok_iff {l' : List α} {r : List β} :
    (l ++ l').mapM f = .ok r ↔
      ∃ q q', l.mapM f = .ok q ∧ l'.mapM f = .ok q' ∧ q ++ q' = r := by
  rw [List.mapM_append]
  cases l.mapM f <;> cases l'.mapM f <;> simp [bind, Except.bind, pure, Except.pure]

theorem exists_forall₂ {R : α → β → Prop} :
    (∃ r, List.Forall₂ R l r) ↔ ∀ a ∈ l, ∃ b, R a b := by
  constructor
  · rintro ⟨r, h⟩
    induction h with
    | nil => simp
    | cons hab _ ih => exact List.forall_mem_cons.2 ⟨⟨_, hab⟩, ih⟩
  · intro h
    induction l with
    | nil => exact ⟨[], .nil⟩
    | cons a l ih =>
      obtain ⟨b, hb⟩ := h a (by simp)
      obtain ⟨r, hr⟩ := ih fun c hc => h c (List.mem_cons_of_mem _ hc)
      exact ⟨b :: r, .cons hb hr⟩

/-- Each member of one list stands in the relation to a member of the other. -/
theorem exists_mem_of_forall₂ {R : α → β → Prop} {r : List β} (h : List.Forall₂ R l r) :
    ∀ a ∈ l, ∃ b ∈ r, R a b := by
  induction h with
  | nil => simp
  | @cons a b l r hab _ ih =>
    refine List.forall_mem_cons.2 ⟨⟨b, by simp, hab⟩, fun c hc => ?_⟩
    obtain ⟨d, hd, hcd⟩ := ih c hc
    exact ⟨d, List.mem_cons_of_mem b hd, hcd⟩

/-- A list is not gone through if one of its members fails and those before it do not; the failure is
that of this member. -/
theorem mapM_eq_error_iff {e : ε} :
    l.mapM f = .error e ↔
      ∃ before a after, l = before ++ a :: after ∧ (∀ b ∈ before, ∃ c, f b = .ok c) ∧
        f a = .error e := by
  induction l with
  | nil => simp [pure, Except.pure]
  | cons a l ih =>
    constructor
    · intro h
      rw [List.mapM_cons] at h
      cases ha : f a with
      | error e' =>
        obtain rfl : e' = e := by simpa [ha, bind, Except.bind] using h
        exact ⟨[], a, l, rfl, by simp, ha⟩
      | ok c =>
        have hl : l.mapM f = .error e := by
          cases hl : l.mapM f <;> simp_all [bind, Except.bind, pure, Except.pure]
        obtain ⟨before, b, after, rfl, hbefore, hb⟩ := ih.1 hl
        exact ⟨a :: before, b, after, rfl, List.forall_mem_cons.2 ⟨⟨c, ha⟩, hbefore⟩, hb⟩
    · rintro ⟨before, b, after, hl, hbefore, hb⟩
      cases before with
      | nil =>
        obtain ⟨rfl, rfl⟩ := List.cons.inj hl
        simp [List.mapM_cons, hb, bind, Except.bind]
      | cons d before =>
        rw [List.cons_append, List.cons.injEq] at hl
        obtain ⟨rfl, rfl⟩ := hl
        obtain ⟨⟨c, hc⟩, hbefore⟩ := List.forall_mem_cons.1 hbefore
        have hrest := ih.2 ⟨before, b, after, rfl, hbefore, hb⟩
        rw [List.mapM_cons, hc, hrest]
        rfl

section Known

variable {P : α → Prop} {g : α → β} (h : ∀ {a b}, f a = .ok b ↔ P a ∧ g a = b)
include h

theorem mapM_eq_ok_iff_forall {r : List β} :
    l.mapM f = .ok r ↔ (∀ a ∈ l, P a) ∧ l.map g = r := by
  rw [mapM_eq_ok_iff]
  simp only [h]
  rw [List.forall₂_and_left, ← List.forall₂_map_left_iff, List.forall₂_eq_eq_eq]

theorem mapM_eq_error_iff_forall {e : ε} :
    l.mapM f = .error e ↔
      ∃ before a after, l = before ++ a :: after ∧ (∀ b ∈ before, P b) ∧ f a = .error e := by
  rw [mapM_eq_error_iff]
  simp [h]

end Known

/-- Either all members of a list have a property or there is a first one that does not. -/
theorem forall_or_exists_first (P : α → Prop) (l : List α) :
    (∀ a ∈ l, P a) ∨ ∃ before a after, l = before ++ a :: after ∧ (∀ b ∈ before, P b) ∧ ¬ P a := by
  induction l with
  | nil => exact .inl (by simp)
  | cons a l ih =>
    by_cases ha : P a
    · rcases ih with hall | ⟨before, b, after, rfl, hbefore, hb⟩
      · exact .inl (List.forall_mem_cons.2 ⟨ha, hall⟩)
      · exact .inr ⟨a :: before, b, after, rfl, List.forall_mem_cons.2 ⟨ha, hbefore⟩, hb⟩
    · exact .inr ⟨[], a, l, rfl, by simp, ha⟩

end SpecGrammar
