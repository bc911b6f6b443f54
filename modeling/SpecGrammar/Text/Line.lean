import SpecGrammar.Text.Blank

/-!
# Lines

Tabs are expanded to columns of eight, the margin that all lines share is removed, and the text is
cut into lines. The margin is counted on lines ended by line feeds alone, while the cutting knows
every line separator, so the two steps may disagree on what a line is.
-/

namespace SpecGrammar.Text

def tabWidth : Nat := 8

/-- Replaces each tab by spaces up to the next column divisible by `tabWidth`, starting in the given
column; line feeds and carriage returns go back to column zero. -/
def expandTabsFrom : Nat → List Char → List Char
  | _, [] => []
  | column, c :: r =>
    if c == '\t' then
      let width := tabWidth - column % tabWidth
      List.replicate width ' ' ++ expandTabsFrom (column + width) r
    else if c == '\n' || c == '\r' then c :: expandTabsFrom 0 r
    else c :: expandTabsFrom (column + 1) r

def expandTabs (s : List Char) : List Char := expandTabsFrom 0 s

/-! ### The margin -/

/-- The number of spaces at the start of a line. -/
def indentation (line : List Char) : Nat := (line.takeWhile (· == ' ')).length

/-- Whether a line holds something besides spaces. -/
def isInked (line : List Char) : Bool := line.any (· != ' ')

/-- The least indentation among the lines that hold something; zero if there is none. -/
def margin (lines : List (List Char)) : Nat :=
  match (lines.filter isInked).map indentation with
  | [] => 0
  | n :: ns => ns.foldl min n

/-- Takes the common margin off every line and empties the lines of spaces only. -/
def dropMargin (s : List Char) : List Char :=
  let lines := splitWhen (· == '\n') s
  joinWith ['\n'] (lines.map fun line => if isInked line then line.drop (margin lines) else [])

/-! ### Cutting into lines -/

/-- The characters that end a line. A carriage return and a line feed in a row end one line. -/
def isLineEnd (c : Char) : Bool :=
  let n := c.toNat
  (10 ≤ n && n ≤ 13) || (28 ≤ n && n ≤ 30) || n == 0x85 || n == 0x2028 || n == 0x2029

/-- The lines of a text, without their separators; a separator at the very end opens no line. -/
def splitLines : List Char → List (List Char)
  | [] => []
  | '\r' :: '\n' :: r => [] :: splitLines r
  | c :: r =>
    if isLineEnd c then [] :: splitLines r
    else
      match splitLines r with
      | [] => [[c]]
      | line :: lines => (c :: line) :: lines

/-- The lines of a text, tabs expanded and common margin removed. -/
def flushLines (s : List Char) : List (List Char) :=
  splitLines (dropMargin (expandTabs s))

/-- Every carriage return, alone or before a line feed, becomes one line feed. -/
def unifyNewlines : List Char → List Char
  | [] => []
  | '\r' :: '\n' :: r => '\n' :: unifyNewlines r
  | c :: r => (if c == '\r' then '\n' else c) :: unifyNewlines r

end SpecGrammar.Text
