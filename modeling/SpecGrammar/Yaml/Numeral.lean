import SpecGrammar.Decimal.Numeral
import SpecGrammar.Text.Case
import SpecGrammar.Text.CodePoint
import SpecGrammar.Yaml.Cursor

/-!
# Numbers and truth values

Numbers and truth values as YAML writes them. Underscores in numbers do not count. The older rules read
octal numbers by a leading zero and, with colons, numbers in base sixty.
-/

namespace SpecGrammar.Yaml

open Decimal Text

/-- The places of a number in base sixty, the highest first. -/
def places (s : List Char) : List (List Char) := s.splitOn ':'

/-! ### Whole numbers -/

/-- A whole number without its sign. -/
def magnitude? (v : Version) (s : List Char) : Option Int :=
  match s with
  | '0' :: 'b' :: r => whole? 2 r
  | '0' :: 'x' :: r => whole? 16 r
  | '0' :: 'o' :: r => whole? 8 r
  | s =>
    if v != .older then whole? 10 s
    else if s.head? == some '0' then whole? 8 s
    else do return (← (places s).mapM (whole? 10)).foldl (fun n d => n * 60 + d) 0

def readInteger (v : Version) (text : List CodePoint) : Except Fault Int :=
  match chars? (text.filter (· != .char '_')) with
  | none => .error .unreadableNumber
  | some [] => .error .emptyNumber
  | some s =>
    if v == .older && (dropSign s).isEmpty then .error .emptyNumber
    else
      match magnitude? v (dropSign s) with
      | some n => .ok (if isNegative s then -n else n)
      | none => .error .unreadableNumber

/-! ### Decimal numbers -/

/-- The number of some places in base sixty, the lowest first, of which the first counts as often as the
base says. -/
def ofPlaces (base : Int) (total : Binary64) : List Binary64 → Except Fault Binary64
  | [] => .ok total
  | x :: r =>
    match Binary64.ofInt? base with
    | some b => ofPlaces (base * 60) (total.add (x.mul b)) r
    | none => .error .numberTooGreat

/-- The name of the undefined number. -/
def undefinedName : List Char := ".nan".toList

/-- A number without its sign, in lower case. -/
def readMagnitude (v : Version) (s : List Char) : Except Fault Binary64 :=
  if s == ".inf".toList then .ok (.infinite false)
  else if s == undefinedName then .ok .undefined
  else
    match (if v == .usual then [s] else places s).mapM number? with
    | none => .error .unreadableNumber
    | some [x] => .ok x
    | some xs => ofPlaces 1 (.finite false 0 Binary64.leastExponent) xs.reverse

/-- A number, and whether it is the undefined one, by name. The case of letters does not count. -/
def readDecimal (v : Version) (text : List CodePoint) : Except Fault (Binary64 × Bool) :=
  match chars? (text.filter (· != .char '_')) with
  | none => .error .unreadableNumber
  | some [] => .error .emptyNumber
  | some s => do
    let s := lowerText s
    let x ← readMagnitude v (dropSign s)
    return (if isNegative s then x.negate else x, dropSign s == undefinedName)

/-! ### Truth values -/

/-- A truth value. Any case will do. -/
def readTruth (text : List CodePoint) : Except Fault Bool :=
  match (chars? text).map fun s => String.ofList (lowerText s) with
  | some "true" | some "yes" | some "y" | some "on" => .ok true
  | some "false" | some "no" | some "n" | some "off" => .ok false
  | _ => .error .unknownTruth

end SpecGrammar.Yaml
