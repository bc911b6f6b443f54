import SpecGrammar.Text.Blank
import SpecGrammar.Text.Word

/-!
# Tokens

The kinds of token of the notation for alternatives, and for each kind the longest token of that kind
at the start of a text. There is no longest match between kinds: a reader says which kinds it accepts,
and the first of them in a fixed order that has a token wins.
-/

namespace SpecGrammar.Notation

/-- The kinds of token, in the order in which they are tried. -/
inductive Kind
  | params | namedCharacter | nonterminal | prose | terminal | label
  | lookahead | operator | empty | here | but | not | one | no | of | or
  | comma | leftBrace | leftBracket | question | rightBrace | rightBracket
  deriving DecidableEq, Repr

structure Token where
  kind : Kind
  text : List Char
  deriving DecidableEq, Repr

/-- What separates tokens: spaces, tabs and no-break spaces. -/
def isGap (c : Char) : Bool := c == ' ' || c == '\t' || c == '\u00a0'

def isCapital (c : Char) : Bool := 'A' ≤ c && c ≤ 'Z'

/-! ### Parameters -/

/-- An optional sigil, a capital and word characters. -/
def isParameter (s : List Char) : Bool :=
  match (match s with | c :: r => if c == '?' || c == '+' || c == '~' then r else s | [] => s) with
  | c :: r => isCapital c && r.all Text.isWord
  | [] => false

/-- The parameters of a bracketed list: the pieces between its commas, trimmed, the empty ones left
out. A missing list has none. -/
def parameters (s : List Char) : List (List Char) :=
  ((Text.splitWhen (· == ',') ((Text.trim s).drop 1).dropLast).map Text.trim).filter (· ≠ [])

/-! ### The token of a kind at the start of a text -/

/-- A fixed word at the start of a text. -/
def word? (word s : List Char) : Option (List Char) :=
  if word.isPrefixOf s then some word else none

/-- A bracketed list of parameters. It reaches to the first closing bracket, and the pieces between
its commas are parameters with white space around them. -/
def params? : List Char → Option (List Char)
  | '[' :: r =>
    let inner := r.takeWhile (· != ']')
    if (r.drop inner.length).isEmpty then none
    else if (Text.splitWhen (· == ',') inner).all (fun piece => isParameter (Text.trim piece)) then
      some ('[' :: inner ++ [']'])
    else none
  | _ => none

/-- A capital and capitals or digits between an opening and a closing text. -/
def namedBetween? (opening closing s : List Char) : Option (List Char) :=
  if opening.isPrefixOf s then
    match s.drop opening.length with
    | c :: r =>
      let name := r.takeWhile fun c => isCapital c || c.isDigit
      if isCapital c && closing.isPrefixOf (r.drop name.length) then
        some (opening ++ c :: name ++ closing)
      else none
    | [] => none
  else none

/-- A name in angle brackets, which may both be written as references. -/
def namedCharacter? (s : List Char) : Option (List Char) :=
  (namedBetween? ['<'] ['>'] s).or (namedBetween? "&lt;".toList "&gt;".toList s)

def isAsciiWord (c : Char) : Bool := c.isAlphanum || c == '_'

def nonterminal? : List Char → Option (List Char)
  | c :: r => if isCapital c then some (c :: r.takeWhile isAsciiWord) else none
  | [] => none

/-- A closing angle bracket, which may be written as a reference, and the rest of the line. -/
def prose? (s : List Char) : Option (List Char) :=
  if ['>'].isPrefixOf s || "&gt;".toList.isPrefixOf s then some (s.takeWhile (· != '\n')) else none

/-- Characters a backticked text of more than one backtick may hold. -/
def isTerminalCharacter (c : Char) : Bool := !(c == '`' || Text.isBlank c)

/-- A text in backticks: a single backtick, or characters other than backticks and white space. -/
def terminal? : List Char → Option (List Char)
  | '`' :: r =>
    let text := r.takeWhile isTerminalCharacter
    if text ≠ [] then
      if ['`'].isPrefixOf (r.drop text.length) then some ('`' :: text ++ ['`']) else none
    else if ['`', '`'].isPrefixOf r then some ['`', '`', '`'] else none
  | _ => none

/-- A number sign and word characters or hyphens. -/
def label? : List Char → Option (List Char)
  | '#' :: r =>
    let text := r.takeWhile fun c => Text.isWord c || c == '-'
    if text ≠ [] then some ('#' :: text) else none
  | _ => none

/-- The comparisons of a lookahead restriction, in the order in which they are tried. -/
def operators : List (List Char) :=
  ["==", "!=", "=", "≠", "∈", "∉", "&ne;", "&isin;", "&notin;", "<-", "<!"].map String.toList

/-- The token of a kind at the start of a text. -/
def Kind.match? (kind : Kind) (s : List Char) : Option (List Char) :=
  match kind with
  | .params => params? s
  | .namedCharacter => namedCharacter? s
  | .nonterminal => nonterminal? s
  | .prose => prose? s
  | .terminal => terminal? s
  | .label => label? s
  | .operator => operators.findSome? (word? · s)
  | .lookahead => word? "lookahead".toList s
  | .empty => word? "empty".toList s
  | .here => word? "here".toList s
  | .but => word? "but".toList s
  | .not => word? "not".toList s
  | .one => word? "one".toList s
  | .no => word? "no".toList s
  | .of => word? "of".toList s
  | .or => word? "or".toList s
  | .comma => word? [','] s
  | .leftBrace => word? ['\x7b'] s
  | .leftBracket => word? ['['] s
  | .question => word? ['?'] s
  | .rightBrace => word? ['\x7d'] s
  | .rightBracket => word? [']'] s

def Kind.all : List Kind :=
  [.params, .namedCharacter, .nonterminal, .prose, .terminal, .label, .lookahead, .operator, .empty,
    .here, .but, .not, .one, .no, .of, .or, .comma, .leftBrace, .leftBracket, .question, .rightBrace,
    .rightBracket]

/-- The token at the start of a text of the first kind, in the fixed order, that is accepted and has
one. -/
def first? (accepted : List Kind) (s : List Char) : Option Token :=
  (Kind.all.filter accepted.contains).findSome? fun kind => (kind.match? s).map (Token.mk kind)

end SpecGrammar.Notation
