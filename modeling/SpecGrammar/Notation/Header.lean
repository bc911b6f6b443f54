import SpecGrammar.Text.Blank
import SpecGrammar.Text.Word

/-!
# Production headers

The line that opens a production: a name, an optional bracketed part directly after it, one to three
colons, and optionally a rest set off by white space.
-/

namespace SpecGrammar.Notation

/-- The parts of a header. The bracketed part keeps its brackets; the rest is trimmed and not empty. -/
structure Header where
  name : List Char
  bracketed : Option (List Char) := none
  colons : Nat
  rest : Option (List Char) := none
  deriving DecidableEq, Repr

namespace Header

/-- An ASCII letter or an underscore. -/
def isNameStart (c : Char) : Bool := c.isAlpha || c == '_'

/-- The bracketed part at the start of a text, up to the first closing bracket, and what is after it;
nothing if a bracket is left open. -/
def splitBracketed? (s : List Char) : Option (Option (List Char) × List Char) :=
  match s with
  | '[' :: r =>
    let inner := r.takeWhile (· != ']')
    match r.drop inner.length with
    | [] => none
    | _ :: after => some (some ('[' :: inner ++ [']']), after)
  | _ => some (none, s)

/-- The rest after the colons, if it is white space or is set off by white space and lies on one line. -/
def rest? (s : List Char) : Option (Option (List Char)) :=
  match Text.trim s with
  | [] => some none
  | text =>
    if (s.head?.any Text.isBlank) && !text.contains '\n' then some (some text) else none

/-- Reads a header; nothing if the line is none. -/
def parse? (line : List Char) : Option Header :=
  match line with
  | [] => none
  | c :: r =>
    if isNameStart c then do
      let name := c :: r.takeWhile Text.isWord
      let (bracketed, after) ← splitBracketed? (r.dropWhile Text.isWord)
      let after := Text.trimStart after
      let colons := (after.takeWhile (· == ':')).length
      if 1 ≤ colons && colons ≤ 3 then
        let rest ← rest? (after.drop colons)
        return { name, bracketed, colons, rest }
      else none
    else none

end Header

end SpecGrammar.Notation
