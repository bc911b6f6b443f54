import SpecGrammar.Decimal.Numeral
import SpecGrammar.Reference.Names

/-!
# Decoding character references

A character reference is an ampersand followed by a name, or by `#` and a number in decimal or, after
an `x`, in hexadecimal. A reference that stands for nothing is left as it is. What a reference stands
for is not read again, so a text is decoded once.

A decimal number may have too many digits; then the text cannot be decoded.
-/

namespace SpecGrammar.Reference

/-- The numbers 128 to 159 stand for the characters that the most widespread Western single-byte
encoding has there; five of them are free and stand for themselves. -/
def westernCharacters : List Char :=
  "\u20ac\x81\u201a\u0192\u201e\u2026\u2020\u2021\u02c6\u2030\u0160\u2039\u0152\x8d\u017d\x8f\x90\u2018\u2019\u201c\u201d\u2022\u2013\u2014\u02dc\u2122\u0161\u203a\u0153\x9d\u017e\u0178".toList

/-- Stands in for numbers that are no character. -/
def replacement : Char := '\ufffd'

/-- The character a number stands for: zero, surrogates and numbers beyond the last code point stand
for the replacement character. -/
def character (n : Nat) : Char :=
  if n = 0 then replacement
  else if 0x80 ≤ n && n ≤ 0x9f then westernCharacters.getD (n - 0x80) replacement
  else if n.isValidChar then Char.ofNat n
  else replacement

/-- Controls without a use in text and code points that are permanently no characters; a number of
this kind stands for nothing at all. -/
def isVoid (n : Nat) : Bool :=
  (1 ≤ n && n ≤ 8) || n == 0xb || (0xe ≤ n && n ≤ 0x1f) || n == 0x7f || (0xfdd0 ≤ n && n ≤ 0xfdef)
    || (n ≤ 0x10ffff && 0xfffe ≤ n % 0x10000)

/-- The value of a digit in a base up to sixteen. -/
def digitValue? (base : Nat) (c : Char) : Option Nat :=
  let n := c.toNat
  let value :=
    if 48 ≤ n && n ≤ 57 then n - 48
    else if 65 ≤ n && n ≤ 70 then n - 55
    else if 97 ≤ n && n ≤ 102 then n - 87
    else base
  if value < base then some value else none

def isDigit (base : Nat) (c : Char) : Bool := (digitValue? base c).isSome

/-- The number written by digits, other characters counting as zero. -/
def number (base : Nat) (digits : List Char) : Nat :=
  digits.foldl (fun n c => n * base + (digitValue? base c).getD 0) 0

/-- Where a name ends at the latest: no name is longer than this, its semicolon apart. -/
def longestName : Nat := 32

def isNameCharacter (c : Char) : Bool :=
  !(c == '\t' || c == '\n' || c == '\x0c' || c == ' ' || c == '<' || c == '&' || c == '#' || c == ';')

/-- The longest beginning of a text, of at least two characters, that is a name: what it stands for,
and what is left. The first argument is the length to try first. -/
def longestNamed? : Nat → List Char → Option (List Char)
  | 0, _ => none
  | 1, _ => none
  | n + 2, s =>
    match named? (s.take (n + 2)) with
    | some text => some (text ++ s.drop (n + 2))
    | none => longestNamed? (n + 1) s

/-- What a name stands for. A text that is no name but begins with one stands for that name's text
followed by its own remainder, and any other stands for itself with its ampersand. -/
def expandName (s : List Char) : List Char :=
  match named? s with
  | some text => text
  | none => (longestNamed? (s.length - 1) s).getD ('&' :: s)

/-- A semicolon belongs to the reference before it. -/
def semicolonLength : List Char → Nat
  | ';' :: _ => 1
  | _ => 0

/-- What the number written by digits stands for. -/
def expandNumber (base : Nat) (digits : List Char) : List Char :=
  let n := number base digits
  if isVoid n then [] else [character n]

/-- A part of a text: a character that stands for itself, or a reference. -/
inductive Piece
  | character (c : Char)
  | number (base : Nat) (digits : List Char)
  | name (name : List Char)
  deriving DecidableEq, Repr

namespace Piece

/-- What a piece stands for. -/
def text : Piece → List Char
  | character c => [c]
  | number base digits => expandNumber base digits
  | name text => expandName text

/-- A decimal number of too many digits. -/
def excess? : Piece → Option Decimal.Excess
  | number 10 digits => Decimal.excess? digits.length
  | _ => none

end Piece

/-- The reference at the start of a text that follows an ampersand, and how many characters it takes. -/
def reference? : List Char → Option (Nat × Piece)
  | '#' :: r =>
    let decimal := r.takeWhile (isDigit 10)
    if decimal ≠ [] then
      some (1 + decimal.length + semicolonLength (r.drop decimal.length), .number 10 decimal)
    else
      match r with
      | x :: r =>
        let hexadecimal := r.takeWhile (isDigit 16)
        if (x == 'x' || x == 'X') && hexadecimal ≠ [] then
          some (2 + hexadecimal.length + semicolonLength (r.drop hexadecimal.length),
            .number 16 hexadecimal)
        else none
      | [] => none
  | s =>
    let name := (s.take longestName).takeWhile isNameCharacter
    if name ≠ [] then
      let length := name.length + semicolonLength (s.drop name.length)
      some (length, .name (s.take length))
    else none

/-- The pieces of a text. -/
def pieces : List Char → List Piece
  | [] => []
  | c :: r =>
    if c == '&' then
      match reference? r with
      | some (length, piece) => piece :: pieces (r.drop length)
      | none => .character c :: pieces r
    else .character c :: pieces r
termination_by s => s.length
decreasing_by all_goals simp only [List.length_cons, List.length_drop]; omega

/-- Replaces every character reference of a text by what it stands for. -/
def decode (s : List Char) : List Char := (pieces s).flatMap Piece.text

/-- The first number in a text that has too many digits. -/
def excess? (s : List Char) : Option Decimal.Excess := (pieces s).findSome? Piece.excess?

/-- Replaces every character reference of a text by what it stands for, unless one of them has too many
digits. -/
def tryDecode (s : List Char) : Except Decimal.Excess (List Char) :=
  match excess? s with
  | some e => .error e
  | none => .ok (decode s)

end SpecGrammar.Reference
