import SpecGrammar.Proofs.Json.Writing

/-!
# What the text of a document tells

* `Document.ofValue?`: a document from the value that its text stands for;
* `Document.ofValue?_value`: it is the one that was written;
* `Regular`: the keys of an object are distinct, and a node is marked as optional only with true;
* `Document.write_determines`: the text is a JSON text for one value only, from which the document can
  be rebuilt.
-/

namespace SpecGrammar

open Json (Value)

/-! ### Parts of a value -/

namespace Json.Value

/-- What an object has under a key. -/
def member? (key : String) : Value → Option Value
  | .object members => (members.find? fun m => m.1 = key.toList).map (·.2)
  | _ => none

def string? : Value → Option (List Char)
  | .string text => some text
  | _ => none

def list? {α : Type} (item? : Value → Option α) : Value → Option (List α)
  | .array items => items.mapM item?
  | _ => none

/-- A truth value under a key; false if the object does not have the key. -/
def flag? (key : String) (v : Value) : Option Bool :=
  match v.member? key with
  | none => some false
  | some (.bool value) => some value
  | some _ => none

/-- What two members of an object make together. -/
def both? {α β γ : Type} (make : α → β → γ) (first : String) (first? : Value → Option α)
    (second : String) (second? : Value → Option β) (v : Value) : Option γ :=
  return make (← (v.member? first).bind first?) (← (v.member? second).bind second?)

/-- The value itself, the items and members of it, theirs and so on. -/
inductive Part (w : Value) : Value → Prop
  | self : Part w w
  | item {v : Value} {items : List Value} (hv : v ∈ items) (h : Part w v) : Part w (.array items)
  | member {v : Value} {key : List Char} {members : List (List Char × Value)}
      (hv : (key, v) ∈ members) (h : Part w v) : Part w (.object members)

end Json.Value

/-! ### Documents from values -/

/-- The single key of its object tells what kind of node it is. -/
def Node.ofValue? : Value → Option Node
  | .object [(key, v)] =>
    if key = "literal".toList then v.string?.map .literal
    else if key = "symbol".toList then v.string?.map .symbol
    else if key = "name".toList then
      return .name (← (v.member? "name").bind Value.string?) (← v.flag? "optional")
    else if key = "oneOf".toList then (v.list? Value.string?).map .oneOf
    else none
  | _ => none

def NodeSequence.ofValue? : Value → Option NodeSequence :=
  Value.both? .mk "source" Value.string? "sequence" (Value.list? Node.ofValue?)

def SequenceProduction.ofValue? : Value → Option SequenceProduction :=
  Value.both? .mk "name" Value.string? "body" (Value.list? NodeSequence.ofValue?)

def OneOfProduction.ofValue? : Value → Option OneOfProduction :=
  Value.both? .mk "name" Value.string? "terminals" (Value.list? Value.string?)

def Document.ofValue? : Value → Option Document :=
  Value.both? .mk "sequenceProductions" (Value.list? SequenceProduction.ofValue?)
    "oneOfProductions" (Value.list? OneOfProduction.ofValue?)

section Rebuilding

variable {α β γ : Type}

theorem list?_value {item? : Value → Option α} {f : α → Json} (h : ∀ x, item? (f x).value = some x)
    (xs : List α) : Value.list? item? (Json.array (xs.map f)).value = some xs := by
  rw [Json.value, Json.valueAll_eq_map, Value.list?]
  induction xs with
  | nil => rfl
  | cons x xs ih =>
    rw [List.map_cons, List.map_cons, List.mapM_cons, h x, ih]
    rfl

theorem list?_strings (texts : List (List Char)) :
    Value.list? Value.string? (Json.strings texts).value = some texts :=
  list?_value (fun _ => rfl) texts

theorem both?_object {make : α → β → γ} {first second : String} {first? : Value → Option α}
    {second? : Value → Option β} {v w : Value} {a : α} {b : β} (hne : first.toList ≠ second.toList)
    (ha : first? v = some a) (hb : second? w = some b) :
    Value.both? make first first? second second?
      (.object [(first.toList, v), (second.toList, w)]) = some (make a b) := by
  simp [Value.both?, Value.member?, hne, ha, hb]

theorem Node.ofValue?_value (n : Node) : Node.ofValue? n.toJson.value = some n := by
  cases n with
  | literal text => rfl
  | symbol text => rfl
  | name n optional => cases optional <;> rfl
  | oneOf options => exact congrArg (Option.map Node.oneOf) (list?_strings options)

theorem NodeSequence.ofValue?_value (s : NodeSequence) :
    NodeSequence.ofValue? s.toJson.value = some s :=
  both?_object (by decide) rfl (list?_value Node.ofValue?_value s.nodes)

theorem SequenceProduction.ofValue?_value (p : SequenceProduction) :
    SequenceProduction.ofValue? p.toJson.value = some p :=
  both?_object (by decide) rfl (list?_value NodeSequence.ofValue?_value p.body)

theorem OneOfProduction.ofValue?_value (p : OneOfProduction) :
    OneOfProduction.ofValue? p.toJson.value = some p :=
  both?_object (by decide) rfl (list?_strings p.terminals)

/-- A document can be rebuilt from the value that its text stands for. -/
theorem Document.ofValue?_value (d : Document) : Document.ofValue? d.toJson.value = some d :=
  both?_object (by decide) (list?_value SequenceProduction.ofValue?_value d.sequences)
    (list?_value OneOfProduction.ofValue?_value d.oneOfs)

end Rebuilding

/-! ### The objects in a document -/

/-- The key by which a name is marked as optional. -/
def optionalKey : List Char := "optional".toList

/-- The keys of an object are distinct, and with the key of optional names it has only the value true. -/
structure Regular (members : List (List Char × Value)) : Prop where
  distinct : (members.map Prod.fst).Nodup
  optional : ∀ v, (optionalKey, v) ∈ members → v = .bool true

/-- Every object in a value is regular. -/
def AllRegular (v : Value) : Prop := ∀ members, Value.Part (.object members) v → Regular members

section Objects

theorem allRegular_string (text : List Char) : AllRegular (.string text) := by
  rintro members ⟨⟩

theorem allRegular_bool (value : Bool) : AllRegular (.bool value) := by
  rintro members ⟨⟩

theorem allRegular_array {items : List Value} (h : ∀ v ∈ items, AllRegular v) :
    AllRegular (.array items) := by
  rintro members (_ | ⟨hv, hpart⟩)
  exact h _ hv members hpart

theorem allRegular_object {members : List (List Char × Value)} (hmembers : Regular members)
    (h : ∀ m ∈ members, AllRegular m.2) : AllRegular (.object members) := by
  rintro members' (_ | _ | ⟨hv, hpart⟩)
  · exact hmembers
  · exact h _ hv members' hpart

theorem allRegular_list {α : Type} {f : α → Json} (h : ∀ x, AllRegular (f x).value) (xs : List α) :
    AllRegular (Json.array (xs.map f)).value := by
  rw [Json.value, Json.valueAll_eq_map]
  refine allRegular_array fun v hv => ?_
  obtain ⟨j, hj, rfl⟩ := List.mem_map.1 hv
  obtain ⟨x, -, rfl⟩ := List.mem_map.1 hj
  exact h x

theorem allRegular_single {key : List Char} {v : Value} (hkey : optionalKey ≠ key)
    (hv : AllRegular v) : AllRegular (.object [(key, v)]) := by
  refine allRegular_object ⟨by simp, fun u hu => ?_⟩ (by simp [hv])
  simp [hkey] at hu

theorem allRegular_pair {first second : List Char} {v w : Value} (hne : first ≠ second)
    (hfirst : optionalKey ≠ first) (hsecond : optionalKey = second → w = .bool true)
    (hv : AllRegular v) (hw : AllRegular w) : AllRegular (.object [(first, v), (second, w)]) := by
  refine allRegular_object ⟨by simpa using hne, fun u hu => ?_⟩ (by simp [hv, hw])
  obtain ⟨hkey, rfl⟩ : optionalKey = second ∧ u = w := by simpa [hfirst] using hu
  exact hsecond hkey

theorem Node.allRegular (n : Node) : AllRegular n.toJson.value := by
  cases n with
  | literal text => exact allRegular_single (by decide) (allRegular_string text)
  | symbol text => exact allRegular_single (by decide) (allRegular_string text)
  | oneOf options =>
    exact allRegular_single (by decide) (allRegular_list (f := .string) allRegular_string options)
  | name n optional =>
    cases optional with
    | false =>
      exact allRegular_single (by decide) (allRegular_single (by decide) (allRegular_string n))
    | true =>
      exact allRegular_single (by decide)
        (allRegular_pair (by decide) (by decide) (fun _ => rfl) (allRegular_string n)
          (allRegular_bool true))

theorem NodeSequence.allRegular (s : NodeSequence) : AllRegular s.toJson.value :=
  allRegular_pair (by decide) (by decide) (fun h => absurd h (by decide)) (allRegular_string s.source)
    (allRegular_list Node.allRegular s.nodes)

theorem SequenceProduction.allRegular (p : SequenceProduction) : AllRegular p.toJson.value :=
  allRegular_pair (by decide) (by decide) (fun h => absurd h (by decide)) (allRegular_string p.name)
    (allRegular_list NodeSequence.allRegular p.body)

theorem OneOfProduction.allRegular (p : OneOfProduction) : AllRegular p.toJson.value :=
  allRegular_pair (by decide) (by decide) (fun h => absurd h (by decide)) (allRegular_string p.name)
    (allRegular_list (f := .string) allRegular_string p.terminals)

theorem Document.allRegular (d : Document) : AllRegular d.toJson.value :=
  allRegular_pair (by decide) (by decide) (fun h => absurd h (by decide))
    (allRegular_list SequenceProduction.allRegular d.sequences)
    (allRegular_list OneOfProduction.allRegular d.oneOfs)

end Objects

/-! ### The text of a document -/

/-- The text of a document is a JSON text for its value and for no other, and a reader gives this value.
It holds no control character. The document can be rebuilt from the value, so it is the only one with
its text. In no object of the value a key comes twice, and names are marked as optional only by true. -/
theorem Document.write_determines (d : Document) :
    (∀ v, Json.Denotes d.write v ↔ v = d.toJson.value) ∧
      Json.read? d.write = some d.toJson.value ∧
      (∀ c ∈ d.write, 0x20 ≤ c.toNat) ∧
      Document.ofValue? d.toJson.value = some d ∧
      (∀ d' : Document, d'.write = d.write ↔ d' = d) ∧
      ∀ members, Value.Part (.object members) d.toJson.value → Regular members := by
  refine ⟨fun v => Json.denotes_write_iff _, Json.read?_write _, Json.raw_write _,
    Document.ofValue?_value d, fun d' => ⟨fun h => ?_, congrArg Document.write⟩, d.allRegular⟩
  have hvalue : d'.toJson.value = d.toJson.value := by
    have hread := Json.read?_write d'.toJson
    rw [show d'.toJson.write = d.toJson.write from h, Json.read?_write] at hread
    exact (Option.some.inj hread).symm
  have hd' := Document.ofValue?_value d'
  rw [hvalue, Document.ofValue?_value] at hd'
  exact (Option.some.inj hd').symm

end SpecGrammar
