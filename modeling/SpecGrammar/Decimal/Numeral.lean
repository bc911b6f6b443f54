import SpecGrammar.Decimal.Binary64
import SpecGrammar.Text.Blank

/-!
# Numerals

Texts that stand for numbers: whole numbers in a base, and decimal numbers with a point and an exponent.
Digits may be those of any script, white space may stand around a numeral, and a single underscore
between two digits does not count. A whole number is read from decimal digits, and written with them,
only up to a limit on their number; leading zeros count.
-/

namespace SpecGrammar.Text

/-! ### Decimal digits of all scripts

In each script they follow one another from zero to nine. -/

/-- The digits that stand for zero, in ascending order. -/
def zeros : List Nat :=
 [0x30, 0x660, 0x6f0, 0x7c0, 0x966, 0x9e6, 0xa66, 0xae6, 0xb66, 0xbe6, 0xc66, 0xce6, 0xd66, 0xde6,
   0xe50, 0xed0, 0xf20, 0x1040, 0x1090, 0x17e0, 0x1810, 0x1946, 0x19d0, 0x1a80, 0x1a90, 0x1b50,
   0x1bb0, 0x1c40, 0x1c50, 0xa620, 0xa8d0, 0xa900, 0xa9d0, 0xa9f0, 0xaa50, 0xabf0, 0xff10, 0x104a0,
   0x10d30, 0x11066, 0x110f0, 0x11136, 0x111d0, 0x112f0, 0x11450, 0x114d0, 0x11650, 0x116c0,
   0x11730, 0x118e0, 0x11950, 0x11c50, 0x11d50, 0x11da0, 0x16a60, 0x16ac0, 0x16b50, 0x1d7ce,
   0x1d7d8, 0x1d7e2, 0x1d7ec, 0x1d7f6, 0x1e140, 0x1e2f0, 0x1e950, 0x1fbf0]

/-- The value of a decimal digit of any script. -/
def decimalValue? (c : Char) : Option Nat :=
  (zeros.find? fun first => first ≤ c.toNat && c.toNat < first + 10).map (c.toNat - ·)

end SpecGrammar.Text

namespace SpecGrammar.Decimal

/-! ### Too many digits -/

/-- The most digits of a whole number in decimal. -/
def digitLimit : Nat := 4300

/-- A number that has too many digits to be read. -/
structure Excess where
  digits : Nat
  deriving DecidableEq, Repr

/-- What keeps a number of so many digits from being read. -/
def excess? (digits : Nat) : Option Excess := if digits ≤ digitLimit then none else some ⟨digits⟩

def Excess.message (e : Excess) : List Char :=
  "Exceeds the limit (".toList ++ Nat.toDigits 10 digitLimit
    ++ " digits) for integer string conversion: value has ".toList ++ Nat.toDigits 10 e.digits
    ++ " digits; use sys.set_int_max_str_digits() to increase the limit".toList

/-- Whether a number is small enough to be written. -/
def isWritable (n : Nat) : Bool := n < Nat.pow 10 digitLimit

/-! ### Plain forms -/

/-- A character as it counts in a numeral: a digit of any script is one of ASCII, and white space beyond
ASCII is a space. No other character beyond ASCII belongs to a numeral. -/
def plainChar (c : Char) : Char :=
  if c.toNat < 0x7f then c
  else if Text.isBlank c then ' '
  else
    match Text.decimalValue? c with
    | some d => Char.ofNat (48 + d)
    | none => '?'

/-- White space around a numeral. -/
def isMargin (c : Char) : Bool := c == ' ' || (9 ≤ c.toNat && c.toNat ≤ 13)

/-- A text without the white space around it, in plain characters. -/
def plainForm (s : List Char) : List Char :=
  let s := (s.map plainChar).dropWhile isMargin
  (s.reverse.dropWhile isMargin).reverse

/-- The sign at the start of a text, if one stands there, and what follows it. -/
def splitSign (s : List Char) : Option Char × List Char :=
  match s with
  | c :: r => if c == '+' || c == '-' then (some c, r) else (none, s)
  | [] => (none, [])

def dropSign (s : List Char) : List Char := (splitSign s).2

def isNegative (s : List Char) : Bool := s.head? == some '-'

/-- A text in which no underscore counts, without them: each stands between two digits. -/
def joinDigits? : List Char → Option (List Char)
  | [] => some []
  | ['_'] => none
  | '_' :: _ :: _ => none
  | c :: '_' :: d :: r => if c.isDigit && d.isDigit then (joinDigits? (d :: r)).map (c :: ·) else none
  | c :: r => (joinDigits? r).map (c :: ·)

/-! ### Whole numbers -/

/-- The value of a letter or digit as a digit of a base up to sixteen. -/
def hexValue? (c : Char) : Option Nat :=
  if c.isDigit then some (c.toNat - 48)
  else if 'a' ≤ c && c ≤ 'f' then some (c.toNat - 87)
  else if 'A' ≤ c && c ≤ 'F' then some (c.toNat - 55)
  else none

def digitIn? (base : Nat) (c : Char) : Option Nat :=
  (hexValue? c).bind fun d => if d < base then some d else none

/-- The number that digits of a base stand for, the highest first. -/
def ofDigits (base : Nat) (digits : List Nat) : Nat := digits.foldl (fun n d => n * base + d) 0

/-- The digits of a base at their values, one or more, a single underscore between two of them left
out. -/
def basedDigits? (base : Nat) : List Char → Option (List Nat)
  | [] => none
  | [c] => (digitIn? base c).map ([·])
  | c :: '_' :: r => do return (← digitIn? base c) :: (← basedDigits? base r)
  | c :: r => do return (← digitIn? base c) :: (← basedDigits? base r)

/-- The letter that marks the numerals of a base. -/
def baseMark? : Nat → Option Char
  | 2 => some 'b'
  | 8 => some 'o'
  | 16 => some 'x'
  | _ => none

/-- A numeral without the mark of its base, a zero and a letter that an underscore may follow. -/
def dropMark (base : Nat) (s : List Char) : List Char :=
  match s, baseMark? base with
  | '0' :: x :: r, some mark =>
    if x == mark || x == mark.toUpper then
      match r with
      | '_' :: r => r
      | r => r
    else s
  | _, _ => s

/-- A whole number in a base, with a sign and the mark of the base. In base ten the number of digits is
limited. -/
def whole? (base : Nat) (s : List Char) : Option Int := do
  let s := plainForm s
  let ds ← basedDigits? base (dropMark base (dropSign s))
  if base == 10 && (excess? ds.length).isSome then none
  else
    let n : Int := ofDigits base ds
    return if isNegative s then -n else n

/-! ### Decimal numbers -/

/-- The powers of ten beyond which a number is infinite or zero. -/
def farthestOrder : Int := 400

/-- The number of digits before and after a point and an exponent. -/
def ofParts (whole fraction : List Char) (exponent : Int) : Binary64 :=
  let n := ofDigits 10 ((whole ++ fraction).map fun d => d.toNat - 48)
  let place := exponent - fraction.length
  let order := place + (Nat.toDigits 10 n).length
  if n == 0 || order < -farthestOrder then .finite false 0 Binary64.leastExponent
  else if farthestOrder < order then .infinite false
  else .ofDecimal false n place

/-- The exponent at the start of a text, and what follows it; zero if none stands there. -/
def takeExponent (s : List Char) : Int × List Char :=
  match s with
  | e :: r =>
    let digits := (dropSign r).takeWhile Char.isDigit
    if (e == 'e' || e == 'E') && !digits.isEmpty then
      let n : Int := ofDigits 10 (digits.map fun d => d.toNat - 48)
      (if isNegative r then -n else n, (dropSign r).drop digits.length)
    else (0, s)
  | [] => (0, [])

/-- Whether a text begins with a word in any case. -/
def beginsWith (word s : List Char) : Bool := word == (s.take word.length).map Char.toLower

/-- The longest number without a sign at the start of a text, and what follows it. -/
def takeMagnitude? (s : List Char) : Option (Binary64 × List Char) :=
  let whole := s.takeWhile Char.isDigit
  let r := s.drop whole.length
  let fraction :=
    match r with
    | '.' :: r => r.takeWhile Char.isDigit
    | _ => []
  if !(whole ++ fraction).isEmpty then
    let r :=
      match r with
      | '.' :: r => r.drop fraction.length
      | r => r
    let (exponent, r) := takeExponent r
    some (ofParts whole fraction exponent, r)
  else if beginsWith "infinity".toList s then some (.infinite false, s.drop 8)
  else if beginsWith "inf".toList s then some (.infinite false, s.drop 3)
  else if beginsWith "nan".toList s then some (.undefined, s.drop 3)
  else none

/-- The longest number at the start of a text, and what follows it. -/
def takeNumber? (s : List Char) : Option (Binary64 × List Char) :=
  (takeMagnitude? (dropSign s)).map fun (x, r) => (if isNegative s then x.negate else x, r)

/-- A decimal number, or the name of an infinite or undefined one. -/
def number? (s : List Char) : Option Binary64 := do
  let s ← joinDigits? (plainForm s)
  match takeNumber? s with
  | some (x, []) => some x
  | _ => none

/-! ### Complex numbers -/

/-- The letter that marks an imaginary part. -/
def isImaginaryMark (s : List Char) : Bool := s == ['j'] || s == ['J']

/-- Whether a text is a number, an imaginary one, or the sum of two such with a sign between; the digits
of an imaginary part may be left out. -/
def isComplex (s : List Char) : Bool :=
  match joinDigits? (plainForm s) with
  | none => false
  | some s =>
    match takeNumber? s with
    | some (_, []) => true
    | some (_, r) =>
      isImaginaryMark r
        || ((splitSign r).1.isSome
          && isImaginaryMark (((takeNumber? r).map (·.2)).getD (dropSign r)))
    | none => isImaginaryMark (dropSign s)

end SpecGrammar.Decimal
