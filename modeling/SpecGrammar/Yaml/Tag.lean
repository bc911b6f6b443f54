import SpecGrammar.Yaml.Timestamp

/-!
# Tags

The kinds of YAML node, by their tag, and the kind of a plain scalar by its text. The older rules know
more words for truth values, octal numbers by a leading zero, and numbers in base sixty.
-/

namespace SpecGrammar.Yaml

open Decimal

/-- What becomes of a collection. -/
inductive Form
  | list | mapping | set | orderedMapping | pairs
  deriving DecidableEq, Repr

inductive Tag
  | null | bool | int | float | str | timestamp | binary | merge | value
  | collection (form : Form)
  | unknown
  deriving DecidableEq, Repr

/-- The address that all known tags begin with. -/
def coreAddress : List Char := "tag:yaml.org,2002:".toList

/-- The tag of an address. -/
def Tag.ofAddress (address : List Char) : Tag :=
  if coreAddress.isPrefixOf address then
    match String.ofList (address.drop coreAddress.length) with
    | "null" => .null
    | "bool" => .bool
    | "int" => .int
    | "float" => .float
    | "str" => .str
    | "timestamp" => .timestamp
    | "binary" => .binary
    | "seq" => .collection .list
    | "map" => .collection .mapping
    | "set" => .collection .set
    | "omap" => .collection .orderedMapping
    | "pairs" => .collection .pairs
    | "merge" => .merge
    | "value" => .value
    | _ => .unknown
  else .unknown

/-! ### Numbers -/

def isOneOf (words : List String) (s : List Char) : Bool := words.any fun w => w.toList == s

def isNumeral (c : Char) : Bool := c.isDigit || c == '_'

def isBinaryDigit (c : Char) : Bool := c == '0' || c == '1'

def isOctalDigit (c : Char) : Bool := '0' ≤ c && c ≤ '7'

/-- An exponent, its sign needed or not. -/
def isExponent (needsSign : Bool) : List Char → Bool
  | e :: r =>
    (e == 'e' || e == 'E') && (!needsSign || (splitSign r).1.isSome)
      && !(dropSign r).isEmpty && (dropSign r).all Char.isDigit
  | [] => false

/-- Digits with underscores at the start of a text, and the rest. -/
def takeNumerals (s : List Char) : List Char × List Char := s.span isNumeral

/-- A number with a point or an exponent. With no digit before the point, an exponent needs its sign,
and under the older rules the number has none. -/
def isFraction (v : Version) (s : List Char) : Bool :=
  let (whole, rest) := takeNumerals (dropSign s)
  match rest with
  | '.' :: t =>
    let exponent := (takeNumerals t).2
    if whole.isEmpty then
      t.head?.any isNumeral && (exponent.isEmpty || isExponent true exponent)
        && (v != .older || (splitSign s).1.isNone)
    else whole.head?.any Char.isDigit && (exponent.isEmpty || isExponent false exponent)
  | t => whole.head?.any Char.isDigit && isExponent false t

/-- Behind the first place of a number in base sixty, the places that follow, each below sixty and with
one digit or two; what stands behind them is accepted by `ending`. -/
def hasPlaces (ending : List Char → Bool) : List Char → Bool
  | ':' :: a :: b :: r =>
    if a.isDigit && b.isDigit then a < '6' && (ending r || hasPlaces ending r)
    else a.isDigit && (ending (b :: r) || hasPlaces ending (b :: r))
  | [':', a] => a.isDigit && ending []
  | _ => false

/-- A number in base sixty. -/
def isSexagesimal (isFirst : Char → Bool) (ending : List Char → Bool) (s : List Char) : Bool :=
  let (whole, rest) := takeNumerals (dropSign s)
  whole.head?.any isFirst && hasPlaces ending rest

def isFloat (v : Version) (s : List Char) : Bool :=
  isFraction v s || isOneOf [".inf", ".Inf", ".INF"] (dropSign s)
    || isOneOf [".nan", ".NaN", ".NAN"] s
    || (v == .older && isSexagesimal Char.isDigit
      (fun t => t.head? == some '.' && (t.drop 1).all isNumeral) s)

/-- Digits of a class, at least one, with underscores. -/
def isNumber (isDigit : Char → Bool) (s : List Char) : Bool :=
  !s.isEmpty && s.all fun c => c == '_' || isDigit c

def isNonzero (c : Char) : Bool := c.isDigit && c != '0'

/-- A whole number: in decimal, or marked as binary, octal or hexadecimal. -/
def isWhole (v : Version) (s : List Char) : Bool :=
  s.head?.any (fun c => c == '+' || c == '-' || c.isDigit) &&
    match dropSign s with
    | '0' :: 'b' :: r => isNumber isBinaryDigit r
    | '0' :: 'x' :: r => isNumber (fun c => (hexValue? c).isSome) r
    | r =>
      if v == .older then
        isNumber isOctalDigit r || (r.head?.any isNonzero && isNumber Char.isDigit r)
          || isSexagesimal isNonzero List.isEmpty s
      else
        match r with
        | '0' :: 'o' :: r => isNumber isOctalDigit r
        | r => isNumber Char.isDigit r

/-! ### Plain scalars -/

def isTruth (v : Version) (s : List Char) : Bool :=
  isOneOf ["true", "True", "TRUE", "false", "False", "FALSE"] s
    || (v == .older
      && isOneOf ["y", "Y", "yes", "Yes", "YES", "n", "N", "no", "No", "NO", "on", "On", "ON", "off",
        "Off", "OFF"] s)

/-- The tag of a plain scalar under the rules of a version; nothing if the version has none. A line feed
at the end does not count, unless it is all there is. -/
def Tag.ofPlain? (v : Version) (text : List Char) : Option Tag :=
  let s := if text == ['\n'] then text else dropFinalFeed text
  if !v.isSupported then none
  else if isOneOf ["", "~", "null", "Null", "NULL"] s then some .null
  else if isTruth v s then some .bool
  else if isFloat v s then some .float
  else if isWhole v s then some .int
  else if s == ['<', '<'] then some .merge
  else if s == ['='] then some .value
  else if isTimestamp s then some .timestamp
  else if isOneOf ["!", "&", "*"] s then some .unknown
  else some .str

end SpecGrammar.Yaml
