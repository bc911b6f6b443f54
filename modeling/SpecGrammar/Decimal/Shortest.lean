import SpecGrammar.Decimal.Binary64

/-!
# The shortest decimal

The digits of a binary number in decimal: the fewest digits that read back as the same number, and of
those the nearest to it. All arithmetic is on natural numbers, over a common denominator.
-/

namespace SpecGrammar.Decimal

/-- The decimal digits of a natural number, the highest first; zero has one digit. -/
def digits (n : Nat) : List Char := Nat.toDigits 10 n

/-- A positive number and the interval of reals that round to it, over one denominator. -/
structure Rounding where
  value : Nat
  low : Nat
  high : Nat
  denominator : Nat
  /-- Whether the two ends of the interval round to the number too. -/
  closed : Bool

namespace Rounding

/-- The interval reaches half-way to either neighbour; below a power of two the neighbour is only half
as far. -/
def ofBinary (mantissa : Nat) (exponent : Int) : Rounding :=
  let up : Nat := if 0 ≤ exponent then Nat.pow 2 exponent.toNat else 1
  let down : Nat := if 0 ≤ exponent then 1 else Nat.pow 2 (-exponent).toNat
  let nearBelow : Bool := mantissa = Nat.pow 2 52 && Binary64.leastExponent < exponent
  { value := 4 * mantissa * up
    low := (4 * mantissa - (if nearBelow then 1 else 2)) * up
    high := (4 * mantissa + 2) * up
    denominator := 4 * down
    closed := mantissa % 2 = 0 }

/-- Whether `digits * 10 ^ place` lies in the interval. -/
def contains (r : Rounding) (digits : Nat) (place : Int) : Bool :=
  let num := digits * (if 0 ≤ place then Nat.pow 10 place.toNat else 1) * r.denominator
  let scale := if 0 ≤ place then 1 else Nat.pow 10 (-place).toNat
  if r.closed then r.low * scale ≤ num && num ≤ r.high * scale
  else r.low * scale < num && num < r.high * scale

/-- The greatest `e` with `10 ^ e` at most the value. -/
def decimalOrder (r : Rounding) : Int :=
  if r.denominator ≤ r.value then ((digits (r.value / r.denominator)).length : Int) - 1
  else
    let inverse := (r.denominator + r.value - 1) / r.value
    Int.negOfNat (digits (inverse - 1)).length

/-- The multiples of `10 ^ place` next to the value, the nearer one first; of two equally near ones
the one with the even digit. -/
def neighbours (r : Rounding) (place : Int) : List Nat :=
  let num := if 0 ≤ place then r.value else r.value * Nat.pow 10 (-place).toNat
  let den := if 0 ≤ place then r.denominator * Nat.pow 10 place.toNat else r.denominator
  let below := num / den
  let rest := num % den
  let belowFirst : Bool := 2 * rest < den || (2 * rest = den && below % 2 = 0)
  if belowFirst then [below, below + 1] else [below + 1, below]

/-- Of the grids with the given and then fewer places after the first digit, the first one with a
neighbour in the interval: its digits and its place. -/
def search (r : Rounding) (order : Int) : List Nat → Option (Nat × Int)
  | [] => none
  | count :: counts =>
    let place := order - count
    match (r.neighbours place).find? (r.contains · place) with
    | some found => some (found, place)
    | none => search r order counts

end Rounding

/-- Drops the zeros at the end of a number's digits, counting them into its place. -/
def dropZeros (n : Nat) (place : Int) : Nat → Nat × Int
  | 0 => (n, place)
  | fuel + 1 => if n % 10 = 0 && n != 0 then dropZeros (n / 10) (place + 1) fuel else (n, place)

/-- The digits and the place of the last one of the shortest decimal of a positive number. Seventeen
digits always suffice. -/
def shortest (mantissa : Nat) (exponent : Int) : Nat × Int :=
  let r := Rounding.ofBinary mantissa exponent
  match r.search r.decimalOrder (List.range 17) with
  | some (n, place) => dropZeros n place 17
  | none => (0, 0)

/-! ### The written form -/

/-- How a decimal is written: positionally while the first digit's place is in a range, and with a
power of ten beyond it. -/
structure NumberFormat where
  leastPositional : Int
  greatestPositional : Int
  /-- The least number of digits of a power of ten, whose sign is always written. -/
  exponentDigits : Nat
  infinity : List Char
  undefined : List Char

/-- Numbers are written positionally from a ten-thousandth to below ten to the sixteenth, whole ones
with a zero after the point. -/
def numberFormat : NumberFormat :=
  { leastPositional := -4, greatestPositional := 15, exponentDigits := 2
    infinity := "inf".toList, undefined := "nan".toList }

namespace NumberFormat

def writeExponent (f : NumberFormat) (e : Int) : List Char :=
  let ds := digits e.natAbs
  'e' :: (if e < 0 then '-' else '+') :: List.replicate (f.exponentDigits - ds.length) '0' ++ ds

/-- Writes `n * 10 ^ place`. -/
def writeDecimal (f : NumberFormat) (n : Nat) (place : Int) : List Char :=
  let ds := digits n
  let order : Int := place + ds.length - 1
  if f.leastPositional ≤ order && order ≤ f.greatestPositional then
    if 0 ≤ place then ds ++ List.replicate place.toNat '0' ++ ['.', '0']
    else if 0 ≤ order then
      ds.take (order.toNat + 1) ++ '.' :: ds.drop (order.toNat + 1)
    else '0' :: '.' :: List.replicate ((-order).toNat - 1) '0' ++ ds
  else
    match ds with
    | [] => []
    | [d] => d :: f.writeExponent order
    | d :: rest => d :: '.' :: rest ++ f.writeExponent order

def write (f : NumberFormat) : Binary64 → List Char
  | .finite negative mantissa exponent =>
    (if negative then ['-'] else [])
      ++ if mantissa = 0 then f.writeDecimal 0 0
        else f.writeDecimal (shortest mantissa exponent).1 (shortest mantissa exponent).2
  | .infinite negative => (if negative then ['-'] else []) ++ f.infinity
  | .undefined => f.undefined

end NumberFormat

end SpecGrammar.Decimal
