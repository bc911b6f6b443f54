import SpecGrammar.Text.Quoted

/-!
# Code points

An escape by number can name one half of a surrogate pair, which is no character. Texts that may hold
such halves are lists of code points.

* `chars?_points`: a text of characters is read back from its code points.
-/

namespace SpecGrammar.Text

/-- A character, or one half of a surrogate pair. -/
inductive CodePoint
  | char (c : Char)
  | surrogate (n : Nat)
  deriving DecidableEq, Repr

namespace CodePoint

/-- The code point of a number; nothing beyond the last one. -/
def ofNat? (n : Nat) : Option CodePoint :=
  if n.isValidChar then some (.char (Char.ofNat n))
  else if n < 0x110000 then some (.surrogate n)
  else none

def char? : CodePoint → Option Char
  | char c => some c
  | surrogate _ => none

end CodePoint

/-- The code points of a text of characters. -/
def points (s : List Char) : List CodePoint := s.map .char

/-- The characters of a text without halves of surrogate pairs. -/
def chars? (s : List CodePoint) : Option (List Char) := s.mapM CodePoint.char?

/-- Stands in for half of a surrogate pair without the other half. -/
def replacementChar : Char := '\ufffd'

/-- A text as characters: the halves of a pair make one character. -/
def joinPairs : List CodePoint → List Char
  | [] => []
  | .char c :: r => c :: joinPairs r
  | .surrogate high :: .surrogate low :: r =>
    if high < 0xdc00 && 0xdc00 ≤ low then
      Char.ofNat (0x10000 + (high - 0xd800) * 0x400 + (low - 0xdc00)) :: joinPairs r
    else replacementChar :: joinPairs (.surrogate low :: r)
  | .surrogate _ :: r => replacementChar :: joinPairs r

/-- A text between quotes; half of a surrogate pair is escaped by its number. -/
def quotedPoints (s : List CodePoint) : List Char :=
  let quote := quoteFor (s.filterMap CodePoint.char?)
  let written : CodePoint → List Char
    | .char c => escapeChar quote c
    | .surrogate n => '\\' :: 'u' :: hexDigits 4 n
  quote :: s.flatMap written ++ [quote]

theorem chars?_points (s : List Char) : chars? (points s) = some s := by
  induction s with
  | nil => rfl
  | cons c r ih =>
    simp only [points, chars?] at ih
    simp [points, chars?, ih, CodePoint.char?]

end SpecGrammar.Text
