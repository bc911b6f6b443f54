import SpecGrammar.Text.Blank
import SpecGrammar.Text.Printable

/-!
# Quoted texts

A text is quoted for a message by putting it between quotes and escaping what would not be readable:
the quote itself, the backslash, the line breaks, and every character that is not printable.
-/

namespace SpecGrammar.Text

/-- The lower-case hexadecimal digit of a number below sixteen. -/
def hexDigit (n : Nat) : Char :=
  if n < 10 then Char.ofNat (n + 48) else Char.ofNat (n + 87)

/-- The lowest `width` hexadecimal digits of a number. -/
def hexDigits : Nat → Nat → List Char
  | 0, _ => []
  | width + 1, n => hexDigits width (n / 16) ++ [hexDigit (n % 16)]

/-- A text holding an apostrophe and no double quote is quoted with double quotes, every other one
with apostrophes. -/
def quoteFor (s : List Char) : Char :=
  if s.contains '\'' && !s.contains '"' then '"' else '\''

/-- How one character stands between quotes: escaped by number with as many digits as it needs, two,
four or eight, if it is not printable. -/
def escapeChar (quote c : Char) : List Char :=
  if c == quote || c == '\\' then ['\\', c]
  else if c == '\n' then ['\\', 'n']
  else if c == '\r' then ['\\', 'r']
  else if c == '\t' then ['\\', 't']
  else if isPrintable c then [c]
  else if c.toNat < 0x100 then '\\' :: 'x' :: hexDigits 2 c.toNat
  else if c.toNat < 0x10000 then '\\' :: 'u' :: hexDigits 4 c.toNat
  else '\\' :: 'U' :: hexDigits 8 c.toNat

def quoted (s : List Char) : List Char :=
  quoteFor s :: s.flatMap (escapeChar (quoteFor s)) ++ [quoteFor s]

/-- Bytes between quotes, as the characters of their numbers; beyond ASCII they are escaped. -/
def quotedBytes (content : List UInt8) : List Char :=
  let s := content.map fun b => Char.ofNat b.toNat
  let quote := quoteFor s
  let written (c : Char) : List Char :=
    if c.toNat < 0x80 then escapeChar quote c else '\\' :: 'x' :: hexDigits 2 c.toNat
  'b' :: quote :: s.flatMap written ++ [quote]

/-- Texts in parentheses and separated by commas; a single one keeps its comma. -/
def parenthesized (items : List (List Char)) : List Char :=
  match items with
  | [item] => '(' :: item ++ [',', ')']
  | items => '(' :: joinWith [',', ' '] items ++ [')']

end SpecGrammar.Text
