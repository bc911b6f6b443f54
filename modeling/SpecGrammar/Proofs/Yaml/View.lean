import Mathlib.Data.List.Perm.Subperm
import SpecGrammar.Yaml.Display

/-!
# Values seen from outside

The places at which a document keeps its collections are not part of what it says. The view of a value
has every collection where it occurs; a collection within itself is seen by its kind alone.

* `Data.viewPlace_of_le`: the view has all there is, it does not end for want of fuel;
* `Data.shown?_eq_of_view_eq`, `Data.bare?_eq_of_view_eq`: what is written of a value depends on its
  view alone, whatever the documents.
-/

namespace SpecGrammar.Yaml

open Decimal

mutual

/-- A value with all that it holds. -/
inductive View
  | single (v : Value)
  | tuple (items : List View)
  | collection (c : CollectionView)

inductive CollectionView
  | missing
  | within (abbreviation : List Char)
  | list (items : List View)
  | pair (key value : View)
  | mapping (entries : List (View × View))
  | orderedMapping (entries : List (View × View))
  | set (members : List View)

end

mutual

/-- The view of a value, given the views of the collections. Undefined numbers look all the same. -/
def Value.viewWith (collection : Nat → CollectionView) : Value → View
  | .undefined _ => .single (.undefined none)
  | .tuple items => .tuple (viewAllWith collection items)
  | .place n => .collection (collection n)
  | v => .single v

def viewAllWith (collection : Nat → CollectionView) : List Value → List View
  | [] => []
  | v :: r => v.viewWith collection :: viewAllWith collection r

end

def Collection.viewWith (view : Value → View) : Collection → CollectionView
  | .list items => .list (items.map view)
  | .pair k v => .pair (view k) (view v)
  | .mapping entries => .mapping (entries.map fun (k, v) => (view k, view v))
  | .orderedMapping entries => .orderedMapping (entries.map fun (k, v) => (view k, view v))
  | .set members => .set (members.map view)

namespace Data

/-- The view of the collection at a place, inside of those that are opened already. -/
def viewPlace (d : Data) : Nat → List Nat → Nat → CollectionView
  | 0, _, _ => .missing
  | fuel + 1, opened, n =>
    match d.collections[n]? with
    | none => .missing
    | some c =>
      if opened.contains n then .within c.abbreviation
      else c.viewWith fun v => v.viewWith (d.viewPlace fuel (n :: opened))

/-- The view of a value; the fuel suffices, since no collection is opened within itself. -/
def view (d : Data) (v : Value) : View := v.viewWith (d.viewPlace (d.collections.size + 1) [])

/-! ### Fuel -/

/-- No place is opened within itself, so there are never more opened places than collections. -/
theorem viewPlace_add {d : Data} (extra : Nat) {fuel : Nat} {opened : List Nat}
    (hnodup : opened.Nodup) (hopened : ∀ m ∈ opened, m < d.collections.size)
    (hfuel : d.collections.size < fuel + opened.length) :
    d.viewPlace (fuel + extra) opened = d.viewPlace fuel opened := by
  induction fuel generalizing opened with
  | zero =>
    have hlength : opened.length ≤ (List.range d.collections.size).length :=
      (hnodup.subperm fun m hm => List.mem_range.2 (hopened m hm)).length_le
    rw [List.length_range] at hlength
    omega
  | succ fuel ih =>
    funext n
    rw [Nat.add_right_comm]
    simp only [viewPlace]
    cases hplace : d.collections[n]? with
    | none => rfl
    | some c =>
      by_cases hn : n ∈ opened
      · simp [hn]
      · have hn' : n < d.collections.size := (Array.getElem?_eq_some_iff.1 hplace).1
        rw [ih (List.nodup_cons.2 ⟨hn, hnodup⟩) (by simpa [hn'] using hopened) (by simp; omega)]

theorem viewPlace_of_le (d : Data) {fuel : Nat} (h : d.collections.size < fuel) :
    d.viewPlace fuel [] = d.viewPlace (d.collections.size + 1) [] := by
  obtain ⟨extra, rfl⟩ := Nat.exists_eq_add_of_le (Nat.succ_le_of_lt h)
  exact viewPlace_add extra List.nodup_nil (by simp) (by simp)

end Data

/-! ### Views from which values are known -/

section Views

variable {collection : Nat → CollectionView} {v : Value}

theorem viewWith_eq_single {u : Value} (h : v.viewWith collection = .single u)
    (shown : Nat → Option (List Char)) : v.shownWith shown = u.shownWith fun _ => none := by
  cases v <;> simp only [Value.viewWith, View.single.injEq, reduceCtorEq] at h <;> subst h <;> rfl

theorem viewWith_eq_tuple {items : List View} (h : v.viewWith collection = .tuple items) :
    ∃ values, v = .tuple values ∧ viewAllWith collection values = items := by
  cases v with
  | tuple values => exact ⟨values, rfl, View.tuple.inj h⟩
  | _ => simp [Value.viewWith] at h

theorem viewWith_eq_collection {c : CollectionView} (h : v.viewWith collection = .collection c) :
    ∃ n, v = .place n ∧ collection n = c := by
  cases v with
  | place n => exact ⟨n, rfl, View.collection.inj h⟩
  | _ => simp [Value.viewWith] at h

end Views

/-! ### What is shown -/

section Shown

variable {collection collection' : Nat → CollectionView} {shown shown' : Nat → Option (List Char)}

mutual

theorem shownWith_eq_of_viewWith_eq
    (hplace : ∀ n n', collection n = collection' n' → shown n = shown' n') :
    ∀ v v' : Value, v.viewWith collection = v'.viewWith collection' →
      v.shownWith shown = v'.shownWith shown'
  | v, v', h => by
    cases hview : v.viewWith collection with
    | single u => rw [viewWith_eq_single hview, viewWith_eq_single (h.symm.trans hview)]
    | tuple views =>
      obtain ⟨values, rfl, hvalues⟩ := viewWith_eq_tuple hview
      obtain ⟨values', rfl, hvalues'⟩ := viewWith_eq_tuple (h.symm.trans hview)
      have hall := shownAllWith_eq_of_viewAllWith_eq hplace values values'
        (hvalues.trans hvalues'.symm)
      simp only [Value.shownWith, hall]
    | collection c =>
      obtain ⟨n, rfl, hn⟩ := viewWith_eq_collection hview
      obtain ⟨n', rfl, hn'⟩ := viewWith_eq_collection (h.symm.trans hview)
      exact hplace n n' (hn.trans hn'.symm)

theorem shownAllWith_eq_of_viewAllWith_eq
    (hplace : ∀ n n', collection n = collection' n' → shown n = shown' n') :
    ∀ vs vs' : List Value, viewAllWith collection vs = viewAllWith collection' vs' →
      shownAllWith shown vs = shownAllWith shown' vs'
  | [], [], _ => rfl
  | v :: r, v' :: r', h => by
    simp only [viewAllWith, List.cons.injEq] at h
    simp only [shownAllWith, shownWith_eq_of_viewWith_eq hplace v v' h.1,
      shownAllWith_eq_of_viewAllWith_eq hplace r r' h.2]
  | [], _ :: _, h => by simp [viewAllWith] at h
  | _ :: _, [], h => by simp [viewAllWith] at h

end

end Shown

/-- Mapping lists to the same values with one function, they are read the same with another that depends
on those values. -/
theorem mapM_eq_of_map_eq {α α' β γ : Type} {f : α → β} {f' : α' → β} {g : α → Option γ}
    {g' : α' → Option γ} (h : ∀ a a', f a = f' a' → g a = g' a') {l : List α} {l' : List α'}
    (hmap : l.map f = l'.map f') : l.mapM g = l'.mapM g' := by
  induction l generalizing l' with
  | nil =>
    obtain rfl : l' = [] := by simpa using hmap.symm
    rfl
  | cons a l ih =>
    cases l' with
    | nil => simp at hmap
    | cons a' l' =>
      simp only [List.map_cons, List.cons.injEq] at hmap
      simp only [List.mapM_cons, h a a' hmap.1, ih hmap.2]

section Collections

variable {view view' : Value → View} {shown shown' : Value → Option (List Char)}
  (hvalue : ∀ v v', view v = view' v' → shown v = shown' v')
include hvalue

/-- The rows of a mapping, each written from a key and a value. -/
theorem mapM_row_eq_of_map_eq (row : List Char → List Char → List Char) {entries entries' : Entries}
    (h : (entries.map fun (k, v) => (view k, view v)) =
      entries'.map fun (k, v) => (view' k, view' v)) :
    (entries.mapM fun (k, v) => do return row (← shown k) (← shown v)) =
      entries'.mapM fun (k, v) => do return row (← shown' k) (← shown' v) := by
  refine mapM_eq_of_map_eq ?_ h
  rintro ⟨k, v⟩ ⟨k', v'⟩ he
  obtain ⟨hk, hv⟩ := Prod.mk.inj he
  simp only [hvalue k k' hk, hvalue v v' hv]

/-- What is shown of a collection depends on the views of what it holds. -/
theorem Collection.shownWith_eq_of_viewWith_eq {c c' : Collection}
    (h : c.viewWith view = c'.viewWith view') : c.shownWith shown = c'.shownWith shown' := by
  cases c <;> cases c' <;> simp only [viewWith, reduceCtorEq] at h
  case list.list items items' =>
    simp only [shownWith, mapM_eq_of_map_eq hvalue (CollectionView.list.inj h)]
  case pair.pair k v k' v' =>
    obtain ⟨hk, hv⟩ := CollectionView.pair.inj h
    simp only [shownWith, hvalue k k' hk, hvalue v v' hv]
  case mapping.mapping entries entries' =>
    have hrows := mapM_row_eq_of_map_eq hvalue (fun k v => k ++ ':' :: ' ' :: v)
      (CollectionView.mapping.inj h)
    simp only [shownWith, hrows]
  case orderedMapping.orderedMapping entries entries' =>
    have hrows := mapM_row_eq_of_map_eq hvalue (fun k v => Text.parenthesized [k, v])
      (CollectionView.orderedMapping.inj h)
    simp only [shownWith, hrows]
  case set.set members members' =>
    have hmembers := CollectionView.set.inj h
    cases members with
    | nil =>
      obtain rfl : members' = [] := by simpa using hmembers.symm
      rfl
    | cons m r =>
      cases members' with
      | nil => simp at hmembers
      | cons m' r' => simp only [shownWith, mapM_eq_of_map_eq hvalue hmembers]

end Collections

theorem Collection.viewWith_ne (c : Collection) (view : Value → View) :
    c.viewWith view ≠ .missing ∧ ∀ abbreviation, c.viewWith view ≠ .within abbreviation := by
  cases c <;> simp [viewWith]

namespace Data

theorem place_cases (d : Data) (fuel : Nat) (opened : List Nat) (n : Nat) :
    d.viewPlace fuel opened n = .missing ∧ d.shownPlace fuel opened n = none ∨
    (∃ c : Collection, d.viewPlace fuel opened n = .within c.abbreviation ∧
      d.shownPlace fuel opened n = some c.abbreviation) ∨
    ∃ (c : Collection) (rest : Nat), fuel = rest + 1 ∧
      d.viewPlace fuel opened n =
        c.viewWith (fun v => v.viewWith (d.viewPlace rest (n :: opened))) ∧
      d.shownPlace fuel opened n =
        c.shownWith fun v => v.shownWith (d.shownPlace rest (n :: opened)) := by
  cases fuel with
  | zero => exact .inl ⟨rfl, rfl⟩
  | succ rest =>
    simp only [viewPlace, shownPlace]
    cases d.collections[n]? with
    | none => exact .inl ⟨rfl, rfl⟩
    | some c =>
      by_cases hn : opened.contains n
      · simp only [hn, if_true]
        exact .inr (.inl ⟨c, rfl, rfl⟩)
      · simp only [hn]
        exact .inr (.inr ⟨c, rest, rfl, rfl, rfl⟩)

variable {d d' : Data}

/-- By induction on the fuel of the one side; that of the other side need not be the same. -/
theorem shownPlace_eq_of_viewPlace_eq {fuel fuel' : Nat} {opened opened' : List Nat} (n n' : Nat)
    (h : d.viewPlace fuel opened n = d'.viewPlace fuel' opened' n') :
    d.shownPlace fuel opened n = d'.shownPlace fuel' opened' n' := by
  induction fuel using Nat.strongRecOn generalizing fuel' opened opened' n n' with
  | ind fuel ih =>
    rcases d.place_cases fuel opened n with ⟨hv, hs⟩ | ⟨c, hv, hs⟩ | ⟨c, rest, hfuel, hv, hs⟩ <;>
      rcases d'.place_cases fuel' opened' n' with
        ⟨hv', hs'⟩ | ⟨c', hv', hs'⟩ | ⟨c', rest', -, hv', hs'⟩ <;>
      rw [hv, hv'] at h <;> rw [hs, hs']
    case inl.inr.inl => simp at h
    case inl.inr.inr => exact absurd h.symm (c'.viewWith_ne _).1
    case inr.inl.inl => simp at h
    case inr.inl.inr.inl => rw [CollectionView.within.inj h]
    case inr.inl.inr.inr => exact absurd h.symm ((c'.viewWith_ne _).2 _)
    case inr.inr.inl => exact absurd h (c.viewWith_ne _).1
    case inr.inr.inr.inl => exact absurd h ((c.viewWith_ne _).2 _)
    case inr.inr.inr.inr =>
      refine Collection.shownWith_eq_of_viewWith_eq (fun v v' hvalue => ?_) h
      exact shownWith_eq_of_viewWith_eq (fun m m' => ih rest (by omega) m m') v v' hvalue

/-- What is shown of a value depends on its view alone. -/
theorem shown?_eq_of_view_eq {v v' : Value} (h : d.view v = d'.view v') :
    d.shown? v = d'.shown? v' :=
  shownWith_eq_of_viewWith_eq shownPlace_eq_of_viewPlace_eq v v' h

theorem bare?_eq (d : Data) (v : Value) :
    d.bare? v =
      match d.view v with
      | .single (.string s) => some (Text.joinPairs s)
      | .single (.timestamp t) => some t.bare
      | _ => d.shown? v := by
  cases v <;> rfl

theorem bare?_eq_of_view_eq {v v' : Value} (h : d.view v = d'.view v') :
    d.bare? v = d'.bare? v' := by
  rw [bare?_eq, bare?_eq, h, shown?_eq_of_view_eq h]

end Data

end SpecGrammar.Yaml
