import SpecGrammar.Yaml.Scalar

/-!
# Tokens of a YAML text

The pieces that a text is made of: the indicators, the scalars, and markers where collections begin and
end by indentation. Names, tags and directives are read here.
-/

namespace SpecGrammar.Yaml

open Text

inductive Directive
  | version (v : Version)
  | handle (name expansion : List Char)
  | other
  deriving Repr

inductive Bracket
  | square | curly
  deriving DecidableEq, Repr

inductive Token
  | directive (d : Directive)
  | documentStart
  | documentEnd
  | blockSequence
  | blockMapping
  | blockEnd
  | opening (b : Bracket)
  | closing (b : Bracket)
  | comma
  | entry
  | key
  | value
  | alias (name : List Char)
  | anchor (name : List Char)
  | tag (handle : Option (List Char)) (suffix : List Char)
  | scalar (plain : Bool) (text : List CodePoint)
  deriving Repr

/-! ### Names -/

def isHandleChar (c : Char) : Bool := c.isAlphanum || c == '-' || c == '_'

def isDirectiveChar (c : Char) : Bool := isHandleChar c || c == ':' || c == '.'

/-- The characters of anchors: all that are visible, without the indicators of flow collections. -/
def isAnchorChar (c : Char) : Bool :=
  let n := c.toNat
  !(",[]\x7b\x7d".toList.contains c)
    && ((0x21 ≤ n && n ≤ 0x7e) || (0xa0 ≤ n && n ≤ 0xd7ff)
      || (0xe000 ≤ n && n ≤ 0xfffd && c != byteOrderMark) || 0x10000 ≤ n)

/-- The end of an anchor or an alias. -/
def endsAnchor (c : Option Char) : Bool := endsWord c || c.any "?:,[]\x7b\x7d%@\x60".toList.contains

/-- Behind the ampersand of an anchor or the asterisk of an alias: its name. -/
def readAnchor (c : Cursor) : Except Fault (List Char × Cursor) :=
  let (name, c) := c.run isAnchorChar
  if name.isEmpty || !endsAnchor c.next? then .error .malformed else .ok (name, c)

/-! ### Tags -/

/-- The characters of an address. The older rules leave out the number sign. -/
def isAddressChar (v : Version) (c : Char) : Bool :=
  c.isAlphanum || "-;/?:@&=+$,_.!~*'()[]".toList.contains c || (v.isNewer && c == '#')

/-- The bytes that escapes in a row stand for, each a percent sign and two digits. -/
def escapedBytes : Nat → Cursor → Except Fault (List UInt8 × Cursor)
  | 0, c => .ok ([], c)
  | fuel + 1, c =>
    if c.next? == some '%' then do
      let n ← escapedNumber (c.advance.rest.take 2) 2
      let (bytes, c) ← escapedBytes fuel (c.skip 3)
      return (UInt8.ofNat n :: bytes, c)
    else .ok ([], c)

/-- The rest of an address. Escapes in a row stand for the bytes of a text. -/
def addressRest (v : Version) : Nat → Cursor → Except Fault (List Char × Cursor)
  | 0, _ => .error .malformed
  | fuel + 1, c =>
    match c.next? with
    | some x =>
      if x == '%' then do
        let (bytes, c) ← escapedBytes (c.rest.length + 1) c
        match (ByteArray.mk bytes.toArray).utf8Decode? with
        | none => .error .malformed
        | some decoded =>
          let (text, c) ← addressRest v fuel c
          return (decoded.toList ++ text, c)
      else if isAddressChar v x then do
        let (text, c) ← addressRest v fuel c.advance
        return (x :: text, c)
      else .ok ([], c)
    | none => .ok ([], c)

def readAddress (v : Version) (c : Cursor) : Except Fault (List Char × Cursor) := do
  let (text, c) ← addressRest v (c.rest.length + 1) c
  if text.isEmpty then .error .malformed else return (text, c)

/-- A handle: an exclamation mark alone, or a name between two. -/
def readHandle (c : Cursor) : Except Fault (List Char × Cursor) :=
  if c.next? != some '!' then .error .malformed
  else if c.ahead? 1 == some ' ' then .ok (['!'], c.advance)
  else
    let (name, c) := c.advance.run isHandleChar
    if c.next? == some '!' then .ok ('!' :: name ++ ['!'], c.advance) else .error .malformed

/-- A tag, from its exclamation mark on. The first of two marks is the handle of what follows, unless a
handle or an address in angle brackets follows. -/
def readTag (v : Version) (c : Cursor) : Except Fault (Token × Cursor) := do
  let (short, c) := if c.ahead? 1 == some '!' then (['!', '!'], c.advance) else (['!'], c)
  let next := c.ahead? 1
  let (tag, c) ←
    if next == some '<' then do
      let (text, c) ← readAddress v (c.skip 2)
      if c.next? == some '>' then pure (Token.tag none text, c.advance) else throw .malformed
    else if endsWord next then pure (Token.tag none short, c.advance)
    else do
      let body := c.advance.rest.takeWhile fun x => !endsHeader (some x)
      let (handle, c) ← if body.contains '!' then readHandle c else pure (short, c.advance)
      let (suffix, c) ← readAddress v c
      pure (Token.tag (some handle) suffix, c)
  if endsHeader c.next? then return (tag, c) else throw .malformed

/-! ### Directives -/

/-- A number of a version. -/
def readVersionNumber (c : Cursor) : Except Fault (Nat × Cursor) :=
  let (digits, c) := c.run Char.isDigit
  if digits.isEmpty then .error .malformed
  else
    match Decimal.whole? 10 digits with
    | some n => .ok (n.toNat, c)
    | none => .error .unreadableVersion

def skipSpaces (c : Cursor) : Cursor := c.skipWhile (· == ' ')

/-- A directive, behind its percent sign, up to the end of its line. -/
def readDirective (v : Version) (c : Cursor) : Except Fault (Directive × Cursor) := do
  let (name, c) := c.run isDirectiveChar
  if name.isEmpty || !endsHeader c.next? then throw .malformed
  let (directive, c) ←
    if name == "YAML".toList then do
      let (major, c) ← readVersionNumber (skipSpaces c)
      if c.next? != some '.' then throw .malformed
      let (minor, c) ← readVersionNumber c.advance
      if !endsHeader c.next? then throw .malformed
      pure (Directive.version ⟨major, minor⟩, c)
    else if name == "TAG".toList then do
      let (handle, c) ← readHandle (skipSpaces c)
      if c.next? != some ' ' then throw .malformed
      let (expansion, c) ← readAddress v (skipSpaces c)
      if !endsHeader c.next? then throw .malformed
      pure (Directive.handle handle expansion, c)
    else pure (Directive.other, c.skipWhile fun x => !isBreak x)
  let c := (skipSpaces c).skipComment
  if !endsLine c.next? then throw .malformed
  return (directive, (c.lineBreak?.map (·.2)).getD c)

end SpecGrammar.Yaml
