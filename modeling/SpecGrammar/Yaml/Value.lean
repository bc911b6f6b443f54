import SpecGrammar.Decimal.Binary64
import SpecGrammar.Text.CodePoint
import SpecGrammar.Yaml.Timestamp

/-!
# Values of a YAML document

The data that a document stands for. A collection has a place of its own, and a value refers to it by the
number of the place, so that a collection can occur at many places and within itself.
-/

namespace SpecGrammar.Yaml

open Decimal Text

/-- A single value. An undefined number equals only itself: it has the number of the scalar that it comes
from, except that all that are written by name are one. A tuple is a key. -/
inductive Value
  | null
  | bool (b : Bool)
  | int (n : Int)
  | float (x : Binary64)
  | undefined (origin : Option Nat)
  | string (s : List CodePoint)
  | timestamp (t : Timestamp)
  | bytes (content : List UInt8)
  | tuple (items : List Value)
  | place (n : Nat)
  deriving Repr

/-- The entries of a mapping, in the order in which their keys came. -/
abbrev Entries := List (Value × Value)

inductive Collection
  | list (items : List Value)
  | pair (key value : Value)
  | mapping (entries : Entries)
  | orderedMapping (entries : Entries)
  | set (members : List Value)
  deriving Repr

/-- The data of a document: its collections, and the value that holds all others. -/
structure Data where
  collections : Array Collection := #[]
  root : Value := .null
  deriving Repr

/-- The collection that a value refers to. -/
def Data.collection? (d : Data) : Value → Option Collection
  | .place n => d.collections[n]?
  | _ => none

/-! ### Keys -/

/-- Numbers as a whole number times a power of two; truth values count as numbers. -/
def Value.scaled? : Value → Option (Int × Int)
  | .bool b => some (if b then 1 else 0, 0)
  | .int n => some (n, 0)
  | .float (.finite negative mantissa exponent) => some (Binary64.signed negative mantissa, exponent)
  | _ => none

/-- Whether two scaled numbers are equal. -/
def sameNumber (a b : Int × Int) : Bool :=
  let least := min a.2 b.2
  a.1 * Int.pow 2 (a.2 - least).toNat == b.1 * Int.pow 2 (b.2 - least).toNat

/-- Whether two keys of a mapping are the same. Numbers of different kinds are the same if they are
equal. -/
def Value.sameKey : Value → Value → Bool
  | .tuple xs, .tuple ys => sameAll xs ys
  | a, b =>
    match a.scaled?, b.scaled? with
    | some x, some y => sameNumber x y
    | none, none =>
      match a, b with
      | .null, .null => true
      | .float x, .float y => x == y
      | .undefined x, .undefined y => x == y
      | .string s, .string t => s == t
      | .timestamp s, .timestamp t => s.isSame t
      | .bytes s, .bytes t => s == t
      | _, _ => false
    | _, _ => false
where
  sameAll : List Value → List Value → Bool
    | [], [] => true
    | x :: xs, y :: ys => x.sameKey y && sameAll xs ys
    | _, _ => false

/-- The value under a key. -/
def lookupKey (key : Value) : Entries → Option Value
  | [] => none
  | (k, v) :: r => if k.sameKey key then some v else lookupKey key r

/-- Puts a value under a key; a key that is there already keeps its place. -/
def putKey (key value : Value) : Entries → Entries
  | [] => [(key, value)]
  | (k, v) :: r => if k.sameKey key then (k, value) :: r else (k, v) :: putKey key value r

/-- Whether a value can be a key: a collection cannot, nor a tuple that holds one. -/
def Value.isHashable : Value → Bool
  | .place _ => false
  | .tuple items => items.attach.all fun ⟨v, _⟩ => v.isHashable
  | _ => true

end SpecGrammar.Yaml
