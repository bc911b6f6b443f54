import SpecGrammar.Yaml.Token

/-!
# Token streams

A text is cut into tokens as far as its reader needs them. A mapping key is recognised only at the colon
behind it, so a place where a key may start is remembered until the line ends, the markers are put there
afterwards, and a token is handed out only when no marker can come before it any more.
-/

namespace SpecGrammar.Yaml

open Text

/-! ### The state of the cutting -/

/-- A place where a mapping key may have started: how many tokens precede it, whether nothing else
than a key can stand there, and where it is. -/
structure PendingKey where
  position : Nat
  isRequired : Bool
  start : Cursor
  deriving Repr

/-- An open flow collection, or the block context when there is no bracket, with the key that may have
started in it. -/
structure Level where
  bracket : Option Bracket := none
  key : Option PendingKey := none
  deriving Repr

/-- A token and the line it starts on. -/
structure Placed where
  token : Token
  line : Nat
  deriving Repr

/-- The tokens that are cut and not handed out, with the number of those that are, the place in the
text, the version last named, the open collections and the indentations of the open block collections,
innermost first. -/
structure Stream where
  cursor : Cursor
  version : Version := .usual
  level : Level := {}
  outer : List Level := []
  indents : List Int := []
  allowsKey : Bool := true
  queue : List Placed := []
  taken : Nat := 0
  isFinished : Bool := false
  deriving Repr

namespace Stream

def ofText (text : List Char) : Stream := { cursor := { rest := text } }

def inFlow (s : Stream) : Bool := s.level.bracket.isSome

def indent (s : Stream) : Int := s.indents.headD (-1)

def column (s : Stream) : Int := s.cursor.column

/-- How many tokens have been cut. -/
def position (s : Stream) : Nat := s.taken + s.queue.length

def emit (s : Stream) (t : Token) : Stream :=
  { s with queue := s.queue ++ [⟨t, s.cursor.line⟩] }

/-- Emits a token and goes behind it. -/
def emitTo (s : Stream) (t : Token) (c : Cursor) : Stream := { s.emit t with cursor := c }

/-- Emits the token of an indicator. -/
def indicator (s : Stream) (t : Token) (width : Nat) : Stream := s.emitTo t (s.cursor.skip width)

/-- Puts a token behind the first `position` ones. -/
def insertAt (s : Stream) (position : Nat) (t : Placed) : Stream :=
  { s with queue := s.queue.insertIdx (position - s.taken) t }

/-- Gives up the key that may have started at this level. -/
def dropKey (s : Stream) : Except Fault Stream :=
  if s.level.key.any (·.isRequired) then .error .malformed
  else .ok { s with level := { s.level with key := none } }

/-- Remembers that a key may start here. -/
def saveKey (s : Stream) : Except Fault Stream :=
  if s.allowsKey then do
    let s ← s.dropKey
    let isRequired := !s.inFlow && s.indent == s.column
    return { s with level := { s.level with key := some ⟨s.position, isRequired, s.cursor⟩ } }
  else .ok s

/-- The most characters between the start of a key and its colon. -/
def longestKey : Nat := 1024

/-- A key cannot reach beyond its line, nor be longer than `longestKey`. -/
def refresh (c : Cursor) (l : Level) : Except Fault Level :=
  match l.key with
  | none => .ok l
  | some k =>
    if k.start.line != c.line || longestKey < c.index - k.start.index then
      if k.isRequired then .error .malformed else .ok { l with key := none }
    else .ok l

def dropStaleKeys (s : Stream) : Except Fault Stream := do
  let level ← refresh s.cursor s.level
  let outer ← s.outer.mapM (refresh s.cursor)
  return { s with level := level, outer := outer }

/-- Ends the block collections indented beyond a column. -/
def unwind (s : Stream) (column : Int) : Stream :=
  if s.inFlow then s
  else
    let closed := s.indents.takeWhile (column < ·)
    { s with
      indents := s.indents.drop closed.length
      queue := s.queue ++ closed.map fun _ => ⟨.blockEnd, s.cursor.line⟩ }

/-- Opens a block collection at a place, unless one is open at its column. Its start is put behind the
first `position` tokens. -/
def indentTo (s : Stream) (start : Cursor) (position : Nat) (t : Token) : Stream :=
  if !s.inFlow && s.indent < start.column then
    { s.insertAt position ⟨t, start.line⟩ with indents := start.column :: s.indents }
  else s

/-- Skips blanks, comments and line breaks up to the next token, and a byte order mark at the start. -/
def skipBlanks : Nat → Stream → Stream
  | 0, s => s
  | fuel + 1, s =>
    let c := s.cursor
    let c := if c.index == 0 && c.next? == some byteOrderMark then c.advance else c
    let c := (c.skipWhile fun x => x == ' ' || (s.inFlow && x == '\t')).skipComment
    match c.lineBreak? with
    | none => { s with cursor := c }
    | some (_, c) => skipBlanks fuel { s with cursor := c, allowsKey := s.allowsKey || !s.inFlow }

/-! ### Single tokens -/

/-- A directive or a document marker, which ends all block collections. -/
def atMargin (s : Stream) : Except Fault Stream := do
  let s ← (s.unwind (-1)).dropKey
  return { s with allowsKey := false }

/-- A directive. A version that it names holds from here on. -/
def directive (s : Stream) : Except Fault Stream := do
  let s ← s.atMargin
  let (d, c) ← readDirective s.version s.cursor.advance
  let version :=
    match d with
    | .version v => v
    | _ => s.version
  return { s.emitTo (.directive d) c with version := version }

def openFlow (s : Stream) (b : Bracket) : Except Fault Stream := do
  let s ← s.saveKey
  let s := s.indicator (.opening b) 1
  return { s with level := ⟨some b, none⟩, outer := s.level :: s.outer, allowsKey := true }

def closeFlow (s : Stream) (b : Bracket) : Except Fault Stream := do
  let s ← s.dropKey
  let s := { s.indicator (.closing b) 1 with allowsKey := false }
  match s.outer with
  | [] => return s
  | level :: outer => return { s with level := level, outer := outer }

def flowEntry (s : Stream) : Except Fault Stream := do
  let s ← s.dropKey
  return { s.indicator .comma 1 with allowsKey := true }

/-- The indicator of an entry or a key, which may open a block collection. -/
def blockIndicator (s : Stream) (collection t : Token) : Except Fault Stream := do
  if !s.inFlow && !s.allowsKey then throw .malformed
  let s ← (s.indentTo s.cursor s.position collection).dropKey
  return s.indicator t 1

/-- The colon between key and value. If a key may have started before it, that is one now. -/
def valueIndicator (s : Stream) : Except Fault Stream :=
  match s.level.key with
  | some k =>
    let s := s.insertAt k.position ⟨.key, k.start.line⟩
    let s := s.indentTo k.start k.position .blockMapping
    .ok { s.indicator .value 1 with level := { s.level with key := none }, allowsKey := false }
  | none => do
    let s ← s.blockIndicator .blockMapping .value
    return { s with allowsKey := !s.inFlow }

/-- A token that may be a key or its start: a scalar or a property of a node. -/
def keyLike (s : Stream) (toToken : α → Token) (read : Except Fault (α × Cursor)) :
    Except Fault Stream := do
  let s ← s.saveKey
  let (a, c) ← read
  return { s.emitTo (toToken a) c with allowsKey := false }

/-! ### Which token stands here -/

/-- Whether the colon at this place is one between key and value. Within square brackets and outside
of brackets it needs a blank behind it; within curly ones only directly after another one. Under the
older rules it needs none within brackets. -/
def atValue (s : Stream) : Bool :=
  let blankAfter := endsWord (s.cursor.ahead? 1)
  match s.level.bracket with
  | none => blankAfter
  | some b =>
    let needsBlank :=
      match b, s.queue.getLast? with
      | .square, _ => true
      | .curly, some ⟨.value, _⟩ => true
      | .curly, _ => false
    s.version == .older || !needsBlank || blankAfter

/-- Whether a plain scalar may start with a character at this place. -/
def atPlain (s : Stream) (x : Char) : Bool :=
  let special := " \t\r\n\x85\u2028\u2029-?:,[]\x7b\x7d#&*!|>'\"%@\x60".toList
  let after := s.cursor.ahead? 1
  !special.contains x
    || (x == ':' && s.inFlow && s.version != .older && after != some ' ' && after != some '\t')
    || (!endsWord after && (x == '-' || (!s.inFlow && (x == '?' || x == ':'))))

/-- Where a plain scalar at this place stands. -/
def surroundings (s : Stream) : Surroundings :=
  if s.inFlow then .flow (s.version == .older) else .block

/-- The token that starts with a character at this place. -/
def token (s : Stream) (x : Char) : Except Fault Stream :=
  let c := s.cursor
  let behind := c.advance
  let blankAfter := endsWord (c.ahead? 1)
  if x == '%' && c.column == 0 then s.directive
  else if c.column == 0 && c.atMarker '-' then do
    return (← s.atMargin).indicator .documentStart 3
  else if c.column == 0 && c.atMarker '.' then do
    return (← s.atMargin).indicator .documentEnd 3
  else if x == '[' then s.openFlow .square
  else if x == '{' then s.openFlow .curly
  else if x == ']' then s.closeFlow .square
  else if x == '}' then s.closeFlow .curly
  else if x == ',' then s.flowEntry
  else if x == '-' && blankAfter then do
    return { ← s.blockIndicator .blockSequence .entry with allowsKey := true }
  else if x == '?' && (s.inFlow || blankAfter) then do
    let s ← s.blockIndicator .blockMapping .key
    return { s with allowsKey := !s.inFlow }
  else if x == ':' && s.atValue then s.valueIndicator
  else if x == '*' then s.keyLike .alias (readAnchor behind)
  else if x == '&' then s.keyLike .anchor (readAnchor behind)
  else if x == '!' then s.keyLike id (readTag s.version c)
  else if (x == '|' || x == '>') && !s.inFlow then do
    let s ← s.dropKey
    let (text, c) ← blockScalar (x == '>') s.indent behind
    return { s.emitTo (.scalar false (points text)) c with allowsKey := true }
  else if x == '\'' || x == '"' then s.keyLike (.scalar false) (quotedScalar (x == '"') behind)
  else if s.atPlain x then do
    let plain := plainScalar s.surroundings (s.indent + 1) c
    let s ← s.keyLike (.scalar true) (.ok (points plain.text, plain.cursor))
    return { s with allowsKey := plain.brokeLine }
  else .error .malformed

/-- Cuts off the next token, with the markers before it; at the end of the text the last markers. -/
def cut (s : Stream) : Except Fault Stream := do
  let s ← (s.skipBlanks (s.cursor.rest.length + 1)).dropStaleKeys
  let s := s.unwind s.column
  match s.cursor.next? with
  | none =>
    let s ← (s.unwind (-1)).dropKey
    return { s with level := { s.level with key := none }, isFinished := true }
  | some x => s.token x

/-! ### Handing out -/

/-- The number of the first token that a marker may still be put before. -/
def firstPending? (s : Stream) : Option Nat :=
  ((s.level :: s.outer).filterMap fun l => l.key.map (·.position)).min?

/-- Cuts tokens until the first of the queue can be handed out, or none is left. -/
def prepare : Nat → Stream → Except Fault Stream
  | 0, s => .ok s
  | fuel + 1, s =>
    if s.isFinished then .ok s
    else if s.queue.isEmpty then s.cut >>= prepare fuel
    else do
      let s ← s.dropStaleKeys
      if s.firstPending? == some s.taken then s.cut >>= prepare fuel else return s

/-- The stream with its next token ready. Every cut takes a character or reaches the end. -/
def ready (s : Stream) : Except Fault Stream := s.prepare (s.cursor.rest.length + 2)

/-- The stream without its next token. -/
def drop (s : Stream) : Stream := { s with queue := s.queue.drop 1, taken := s.taken + 1 }

end Stream

end SpecGrammar.Yaml
