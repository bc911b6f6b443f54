import SpecGrammar.Decimal.Numeral
import SpecGrammar.Text.CodePoint
import SpecGrammar.Yaml.Cursor

/-!
# Written scalars

The text that a scalar stands for in each of the ways of writing it: plain, between apostrophes,
between double quotes, and as a block. Each reader starts behind the indicator that announces the
scalar and gives the text and the place after it.
-/

namespace SpecGrammar.Yaml

open Text

/-- How a single line break and the breaks after it read inside a scalar that is folded: a lone one is
a space. -/
def fold (first : Char) (more : List Char) : List Char :=
  (if first != '\n' then [first] else if more.isEmpty then [' '] else []) ++ more

/-! ### Between quotes -/

/-- The line breaks before the next content of a quoted scalar. A document marker at the start of a
line is refused. -/
def quotedBreaks : Nat → Cursor → Except Fault (List Char × Cursor)
  | 0, _ => .error .malformed
  | fuel + 1, c =>
    if c.atAnyMarker then .error .malformed
    else
      let c := c.skipWhile fun x => x == ' ' || x == '\t'
      match c.lineBreak? with
      | none => .ok ([], c)
      | some (x, c) => do
        let (breaks, c) ← quotedBreaks fuel c
        return (x :: breaks, c)

/-- The character that an escape of one letter stands for. -/
def escape? : Char → Option Char
  | '0' => some '\x00'
  | 'a' => some '\x07'
  | 'b' => some '\x08'
  | 't' => some '\t'
  | '\t' => some '\t'
  | 'n' => some '\n'
  | 'v' => some '\x0b'
  | 'f' => some '\x0c'
  | 'r' => some '\r'
  | 'e' => some '\x1b'
  | ' ' => some ' '
  | '"' => some '"'
  | '/' => some '/'
  | '\\' => some '\\'
  | 'N' => some '\x85'
  | '_' => some '\xa0'
  | 'L' => some '\u2028'
  | 'P' => some '\u2029'
  | _ => none

/-- How many hexadecimal digits an escape by number takes. -/
def escapeWidth? : Char → Option Nat
  | 'x' => some 2
  | 'u' => some 4
  | 'U' => some 8
  | _ => none

/-- The number that an escape writes with digits of base sixteen. -/
def escapedNumber (digits : List Char) (width : Nat) : Except Fault Nat :=
  match digits.mapM Decimal.hexValue? with
  | some ds => if ds.length < width then .error .malformed else .ok (Decimal.ofDigits 16 ds)
  | none => .error .malformed

/-- The code point of an escape by number. -/
def numberedEscape (digits : List Char) (width : Nat) : Except Fault CodePoint := do
  let n ← escapedNumber digits width
  if Nat.pow 2 31 ≤ n then .error .escapeTooGreat
  else
    match CodePoint.ofNat? n with
    | some c => .ok c
    | none => .error .impossibleCharacter

/-- The rest of a scalar between quotes. Between apostrophes only a doubled apostrophe is special;
between double quotes escapes are. -/
def quotedRest (double : Bool) : Nat → Cursor → Except Fault (List CodePoint × Cursor)
  | 0, _ => .error .malformed
  | fuel + 1, c =>
    let more (text : List CodePoint) (c : Cursor) : Except Fault (List CodePoint × Cursor) := do
      let (rest, c) ← quotedRest double fuel c
      return (text ++ rest, c)
    match c.next? with
    | none => .error .malformed
    | some x =>
      if x == (if double then '"' else '\'') then
        if !double && c.ahead? 1 == some '\'' then more [.char '\''] (c.skip 2)
        else .ok ([], c.advance)
      else if double && x == '\\' then
        let c := c.advance
        match c.next? with
        | none => .error .malformed
        | some y =>
          match escape? y, escapeWidth? y, c.lineBreak? with
          | some z, _, _ => more [.char z] c.advance
          | none, some width, _ => do
            let z ← numberedEscape (c.advance.rest.take width) width
            more [z] (c.skip (width + 1))
          | none, none, some (_, c) => do
            let (breaks, c) ← quotedBreaks (c.rest.length + 1) c
            more (points breaks) c
          | none, none, none => .error .malformed
      else if x == ' ' || x == '\t' || isBreak x then
        let (blanks, c) := c.run fun x => x == ' ' || x == '\t'
        match c.lineBreak? with
        | none => more (points blanks) c
        | some (first, c) => do
          let (breaks, c) ← quotedBreaks (c.rest.length + 1) c
          more (points (fold first breaks)) c
      else more [.char x] c.advance

def quotedScalar (double : Bool) (c : Cursor) : Except Fault (List CodePoint × Cursor) :=
  quotedRest double (c.rest.length + 1) c

/-! ### Plain -/

/-- A plain scalar, the place after it, and whether a line break stands before that place. -/
structure Plain where
  text : List Char
  cursor : Cursor
  brokeLine : Bool

/-- The line breaks after a piece of a plain scalar; nothing if a document marker follows one. -/
def plainBreaks : Nat → Cursor → Option (List Char) × Cursor
  | 0, c => (none, c)
  | fuel + 1, c =>
    if c.atAnyMarker then (none, c)
    else
      let c := c.skipWhile (· == ' ')
      match c.lineBreak? with
      | none => (some [], c)
      | some (x, c) =>
        let (breaks, c) := plainBreaks fuel c
        (breaks.map (x :: ·), c)

/-- What ends a piece of a plain scalar: outside brackets a blank, or a colon with a blank behind it;
within brackets also their indicators, and under the older rules a question mark. -/
inductive Surroundings
  | block
  | flow (endsAtQuestion : Bool)
  deriving DecidableEq, Repr

/-- Whether a piece of a plain scalar ends at a character, given the one after it. -/
def Surroundings.endsPiece (s : Surroundings) (x : Char) (after : Option Char) : Bool :=
  if x == ':' then endsWord after
  else
    endsWord (some x) ||
      match s with
      | .block => false
      | .flow endsAtQuestion =>
        [',', '[', ']', '{', '}'].contains x || (endsAtQuestion && x == '?')

/-- The longest run of characters that does not end a piece. -/
def Surroundings.piece (s : Surroundings) : List Char → List Char
  | [] => []
  | x :: r => if s.endsPiece x r.head? then [] else x :: s.piece r

/-- The pieces of a plain scalar from here on, with the blank that stands before the first of them. A
piece outside brackets stands at least at the indentation. -/
def plainRest (s : Surroundings) (indent : Int) (before : List Char) (brokeLine : Bool) :
    Nat → Cursor → Plain
  | 0, c => ⟨[], c, brokeLine⟩
  | fuel + 1, c =>
    let text := s.piece c.rest
    if c.next? == some '#' || text.isEmpty then ⟨[], c, brokeLine⟩
    else
      let (blanks, c) := (c.skip text.length).run (· == ' ')
      let (between, c, brokeLine) :=
        match c.lineBreak? with
        | none => (blanks, c, false)
        | some (first, c) =>
          let (breaks, c) := plainBreaks (c.rest.length + 1) c
          ((breaks.map (fold first)).getD [], c, true)
      if between.isEmpty || c.next? == some '#' || (s == .block && c.column < indent) then
        ⟨before ++ text, c, brokeLine⟩
      else
        let more := plainRest s indent between brokeLine fuel c
        ⟨before ++ text ++ more.text, more.cursor, more.brokeLine⟩

def plainScalar (s : Surroundings) (indent : Int) (c : Cursor) : Plain :=
  plainRest s indent [] false (c.rest.length + 1) c

/-! ### Blocks -/

/-- What becomes of the line breaks at the end of a block. -/
inductive Chomping
  | clip | strip | keep
  deriving DecidableEq, Repr

/-- The indicators in the header of a block: how its end is chomped, and its indentation beyond that
of the surrounding node. They may stand in either order. -/
def blockIndicators (c : Cursor) : Except Fault (Chomping × Option Nat × Cursor) :=
  let chomping (c : Cursor) : Option Chomping × Cursor :=
    match c.next? with
    | some '+' => (some .keep, c.advance)
    | some '-' => (some .strip, c.advance)
    | _ => (none, c)
  let increment (c : Cursor) : Except Fault (Option Nat × Cursor) :=
    match c.next? with
    | some x =>
      if x == '0' then .error .malformed
      else if x.isDigit then .ok (some (x.toNat - 48), c.advance)
      else .ok (none, c)
    | none => .ok (none, c)
  do
    let (first, c) := chomping c
    let (width, c) ← increment c
    let (second, c) := if first.isNone && width.isSome then chomping c else (none, c)
    let c' := (c.skipWhile (· == ' ')).skipComment
    if !endsHeader c.next? || !endsLine c'.next? then .error .malformed
    else
      let c := (c'.lineBreak?.map (·.2)).getD c'
      return ((first.or second).getD .clip, width, c)

/-- The line breaks before a line of a block, after taking off its indentation. -/
def blockBreaks (indent : Nat) : Nat → Cursor → List Char × Cursor
  | 0, c => ([], c)
  | fuel + 1, c =>
    let c := c.skip (min ((c.rest.takeWhile (· == ' ')).length) (indent - c.column))
    match c.lineBreak? with
    | none => ([], c)
    | some (x, c) =>
      let (breaks, c) := blockBreaks indent fuel c
      (x :: breaks, c)

/-- The leading blank lines of a block: their breaks, the widest column that a space of them reaches,
the column of the first break, and the place of the content. -/
def blockMargin : Nat → Cursor → List Char × Nat × Option Nat × Cursor
  | 0, c => ([], 0, none, c)
  | fuel + 1, c =>
    let (spaces, c) := c.run (· == ' ')
    let reached := if spaces.isEmpty then 0 else c.column
    match c.lineBreak? with
    | none => ([], reached, none, c)
    | some (x, c') =>
      let (breaks, widest, _, c'') := blockMargin fuel c'
      (x :: breaks, max reached widest, some c.column, c'')

/-- The lines of a block from here on, with the breaks before the first of them, and the breaks after
the last. At no indentation a document marker ends the block. -/
def blockLines (folded markers : Bool) (indent : Nat) (before : List Char) :
    Nat → Cursor → List Char × List Char × List Char × Cursor
  | 0, c => ([], [], before, c)
  | fuel + 1, c =>
    if c.column != indent || c.next?.isNone then ([], [], before, c)
    else
      let isLead (x : Option Char) : Bool := x == some ' ' || x == some '\t'
      let (text, c') := c.run fun x => !isBreak x
      let (last, c') :=
        match c'.lineBreak? with
        | none => ([], c')
        | some (x, c') => ([x], c')
      let (breaks, c') := blockBreaks indent (c'.rest.length + 1) c'
      if (markers && c'.column == 0 && c'.atAnyMarker) || c'.column != indent || c'.next?.isNone then
        (before ++ text, last, breaks, c')
      else
        let joint :=
          if folded && last == ['\n'] && !isLead c.next? && !isLead c'.next? then
            if breaks.isEmpty then [' '] else []
          else last
        let (rest, last, trailing, c'') := blockLines folded markers indent breaks fuel c'
        (before ++ text ++ joint ++ rest, last, trailing, c'')

/-- A block below a node of the given indentation. -/
def blockScalar (folded : Bool) (outer : Int) (c : Cursor) :
    Except Fault (List Char × Cursor) := do
  let (chomping, width, c) ← blockIndicators c
  let least := (outer + 1).toNat
  let fuel := c.rest.length + 1
  let (breaks, indent, c) ←
    match width with
    | some width =>
      let indent := max least 1 + width - 1
      let (breaks, c) := blockBreaks indent fuel c
      pure (breaks, indent, c)
    | none =>
      let (breaks, widest, first, c) := blockMargin fuel c
      if first.any fun n => 0 < n && n < widest then throw .malformed
      pure (breaks, max least widest, c)
  let (text, last, trailing, c) := blockLines folded (least == 0 && width.isNone) indent breaks fuel c
  let ending :=
    match chomping with
    | .strip => []
    | .clip => last
    | .keep => last ++ trailing
  return (text ++ ending, c)

end SpecGrammar.Yaml
