/-!
# Binary floating-point numbers

A number in the 64-bit binary format, held as a mantissa and a power of two, and the rounding of an
exact fraction to the nearest such number. All arithmetic is on natural numbers.
-/

namespace SpecGrammar.Decimal

/-- A number of the 64-bit binary format. A finite one is `mantissa * 2 ^ exponent` with its sign; the
mantissa is below `2 ^ 53`, and at least `2 ^ 52` unless the exponent is the least one. -/
inductive Binary64
  | finite (negative : Bool) (mantissa : Nat) (exponent : Int)
  | infinite (negative : Bool)
  | undefined
  deriving DecidableEq, Repr

namespace Binary64

/-- The exponent of the numbers closest to zero. -/
def leastExponent : Int := -1074

/-- The exponent of the numbers farthest from zero. -/
def greatestExponent : Int := 971

/-- The quotient rounded to the nearest whole number, a half to the even one. -/
def roundDiv (num den : Nat) : Nat :=
  let q := num / den
  let r := num % den
  if 2 * r < den then q
  else if den < 2 * r then q + 1
  else q + q % 2

/-- `num / den / 2 ^ exponent`, rounded to the nearest whole number. -/
def scaled (num den : Nat) (exponent : Int) : Nat :=
  if 0 ≤ exponent then roundDiv num (den * Nat.pow 2 exponent.toNat)
  else roundDiv (num * Nat.pow 2 (-exponent).toNat) den

/-- The greatest `e` with `2 ^ e ≤ num / den`. -/
def binaryOrder (num den : Nat) : Int :=
  let guess : Int := (Nat.log2 num : Int) - (Nat.log2 den : Int)
  let reached : Bool :=
    if 0 ≤ guess then den * Nat.pow 2 guess.toNat ≤ num else den ≤ num * Nat.pow 2 (-guess).toNat
  if reached then guess else guess - 1

/-- The number nearest to `num / den`, ties going to the even mantissa. Beyond the greatest finite
number it is infinite. -/
def ofFraction (negative : Bool) (num den : Nat) : Binary64 :=
  if num = 0 then .finite negative 0 leastExponent
  else
    let exponent := max (binaryOrder num den - 52) leastExponent
    let mantissa := scaled num den exponent
    let (mantissa, exponent) :=
      if mantissa = Nat.pow 2 53 then (Nat.pow 2 52, exponent + 1) else (mantissa, exponent)
    if greatestExponent < exponent then .infinite negative
    else .finite negative mantissa exponent

/-- The number nearest to `digits * 10 ^ exponent`. -/
def ofDecimal (negative : Bool) (digits : Nat) (exponent : Int) : Binary64 :=
  if 0 ≤ exponent then ofFraction negative (digits * Nat.pow 10 exponent.toNat) 1
  else ofFraction negative digits (Nat.pow 10 (-exponent).toNat)

/-- The number nearest to a whole number, or nothing when it is beyond the finite numbers. -/
def ofInt? (n : Int) : Option Binary64 :=
  match ofFraction (n < 0) n.natAbs 1 with
  | .finite negative mantissa exponent => some (.finite negative mantissa exponent)
  | _ => none

def negate : Binary64 → Binary64
  | finite negative mantissa exponent => finite (!negative) mantissa exponent
  | infinite negative => infinite (!negative)
  | undefined => undefined

/-! ### Arithmetic -/

/-- The mantissa of a finite number with its sign. -/
def signed (negative : Bool) (mantissa : Nat) : Int := if negative then -(mantissa : Int) else mantissa

/-- The number nearest to `n * 2 ^ exponent`; zero has the given sign. -/
def ofScaled (n exponent : Int) (negativeZero : Bool) : Binary64 :=
  let negative := if n = 0 then negativeZero else n < 0
  if 0 ≤ exponent then ofFraction negative (n.natAbs * Nat.pow 2 exponent.toNat) 1
  else ofFraction negative n.natAbs (Nat.pow 2 (-exponent).toNat)

/-- The sum, rounded to the nearest number. -/
def add : Binary64 → Binary64 → Binary64
  | finite s m e, finite t n f =>
    let least := min e f
    let total := signed s m * Int.pow 2 (e - least).toNat + signed t n * Int.pow 2 (f - least).toNat
    ofScaled total least (s && t)
  | infinite s, infinite t => if s = t then infinite s else undefined
  | infinite s, finite _ _ _ => infinite s
  | finite _ _ _, infinite t => infinite t
  | undefined, _ => undefined
  | _, undefined => undefined

/-- The product, rounded to the nearest number. -/
def mul : Binary64 → Binary64 → Binary64
  | finite s m e, finite t n f => ofScaled (signed s m * signed t n) (e + f) (s != t)
  | infinite s, infinite t => infinite (s != t)
  | infinite s, finite t n _ => if n = 0 then undefined else infinite (s != t)
  | finite s m _, infinite t => if m = 0 then undefined else infinite (s != t)
  | undefined, _ => undefined
  | _, undefined => undefined

end Binary64

end SpecGrammar.Decimal
