import SpecGrammar.Markup.Token

/-!
# From text to tokens

A text of markup is read as a stream of tokens. Where a piece of markup breaks off, reading starts
again in the closing mode, in which everything that is not complete is text: up to the next closing
bracket, or up to the next opening one, or for a single character. Some pieces that are neither complete
nor wrong end the reading of markup altogether once the closing mode is on.

A section of an unknown kind makes the whole text unreadable, and so does a numeric character reference
of too many digits.
-/

namespace SpecGrammar.Markup

/-- Why a text of markup cannot be read. -/
inductive Refusal
  /-- A section is of an unknown kind. -/
  | section
  | excess (excess : Decimal.Excess)
  deriving DecidableEq, Repr

/-- What stands at the start of a text. -/
inductive Step
  | tokens (tokens : List Token) (rest : List Char)
  /-- Markup that breaks off. -/
  | incomplete
  /-- Some tokens, after which reading breaks off. -/
  | halted (tokens : List Token) (rest : List Char)
  | refused (refusal : Refusal)

/-! ### Markup -/

/-- A start tag as tokens. The content of a raw element is passed over together with its end tag; a
raw element that is not closed takes the rest of the text. -/
def openingTokens (name : List Char) (attributes : List Attribute) (closed : Bool)
    (rest : List Char) : Step :=
  let opening := Token.opening name attributes closed
  if !closed && rawElements.contains name then
    match search (rawEnd? name) rest with
    | some (_, rest) => .tokens [opening, .closing name] rest
    | none => .tokens [opening] []
  else .tokens [opening] rest

/-- What stands at an opening bracket, given the text after it. -/
def stepBracket (r : List Char) : Step :=
  match r with
  | [] => .halted [] ['<']
  | '/' :: r =>
    match endTag? r with
    | some (tokens, rest) => .tokens tokens rest
    | none => .incomplete
  | '!' :: r =>
    match declaration r with
    | .read token rest => .tokens [token] rest
    | .incomplete => .incomplete
    | .refused => .refused .section
  | '?' :: r =>
    match search tagEnd? r with
    | some (_, rest) => .tokens [.remark] rest
    | none => .incomplete
  | c :: _ =>
    if c.isAlpha then
      match startTag r with
      | .tag name attributes closed rest => openingTokens name attributes closed rest
      | .broken text rest => .tokens [.text text] rest
      | .incomplete => .incomplete
      | .undecodable excess => .refused (.excess excess)
    else .tokens [.text ['<']] r

/-! ### Character references -/

def isReferenceCharacter (c : Char) : Bool := c.isAlphanum || c == '-' || c == '.'

/-- The name of a reference at the start of a text and what follows it. A name may hold hyphens and
points, and a character that cannot belong to a plain name has to follow; at the end of the text the
last hyphen or point is that character. -/
def referenceName? (s : List Char) : Option (List Char × List Char) :=
  if s.head?.any Char.isAlpha then
    let name := s.takeWhile isReferenceCharacter
    match s.drop name.length with
    | [] =>
      let plain := (name.reverse.takeWhile Char.isAlphanum).length
      if plain < name.length then
        some (name.take (name.length - plain - 1), name.drop (name.length - plain - 1))
      else none
    | rest => some (name, rest)
  else none

/-- The digits of a numeric reference after its number sign, their base, and what follows them, which
has to be there. -/
def referenceDigits? (s : List Char) : Option (Nat × List Char × List Char) :=
  let (base, s) :=
    match s with
    | x :: r => if x == 'x' || x == 'X' then (16, r) else (10, s)
    | [] => (10, s)
  let digits := s.takeWhile (Reference.isDigit base)
  match s.drop digits.length with
  | [] => none
  | c :: rest =>
    if digits = [] || Reference.isDigit 16 c then none else some (base, digits, c :: rest)

/-- A decimal number of too many digits. -/
def numberExcess? (base : Nat) (digits : List Char) : Option Decimal.Excess :=
  (Reference.Piece.number base digits).excess?

/-- The semicolon after a reference belongs to it. -/
def dropSemicolon : List Char → List Char
  | ';' :: r => r
  | s => s

/-- The text a name stands for; an unknown name stands for itself, without its semicolon. -/
def namedText (name : List Char) : List Char :=
  (Reference.named? (name ++ [';'])).getD ('&' :: name)

/-- What stands at an ampersand, given the text after it. A single letter after an ampersand at the
very end loses the ampersand in the closing mode. -/
def stepAmpersand (closing : Bool) (r : List Char) : Step :=
  match r with
  | [] => .halted [] ['&']
  | '#' :: s =>
    match referenceDigits? s with
    | some (base, digits, rest) =>
      match numberExcess? base digits with
      | some excess => .refused (.excess excess)
      | none =>
        .tokens [.text [Reference.character (Reference.number base digits)]] (dropSemicolon rest)
    | none => if s.contains ';' then .halted [.text ['&', '#']] s else .halted [] ('&' :: r)
  | c :: s =>
    match referenceName? r with
    | some (name, rest) => .tokens [.text (namedText name)] (dropSemicolon rest)
    | none =>
      if c.isAlpha then .halted [] (if closing && s = [] then r else '&' :: r)
      else .tokens [.text ['&']] r

/-! ### The stream -/

def isPlain (c : Char) : Bool := !(c == '<' || c == '&')

/-- What stands at the start of a text whose first character is `c`. -/
def step (closing : Bool) (c : Char) (r : List Char) : Step :=
  if c == '<' then stepBracket r
  else if c == '&' then stepAmpersand closing r
  else .tokens [.text (c :: r.takeWhile isPlain)] (r.dropWhile isPlain)

/-- The part of incomplete markup that is text: up to and with the next closing bracket, or else up to
the next opening one, or else the opening bracket alone. -/
def incompleteText (r : List Char) : List Char × List Char :=
  match search tagEnd? r with
  | some (before, rest) => ('<' :: before ++ ['>'], rest)
  | none =>
    let before := r.takeWhile (· != '<')
    if before.length < r.length then ('<' :: before, r.drop before.length) else (['<'], r)

/-- The tokens of a text. The fuel bounds the number of steps. -/
def tokensFrom : Nat → Bool → List Char → Except Refusal (List Token)
  | 0, _, _ => .ok []
  | _ + 1, _, [] => .ok []
  | fuel + 1, closing, c :: r =>
    match step closing c r with
    | .tokens tokens rest => return tokens ++ (← tokensFrom fuel closing rest)
    | .refused refusal => .error refusal
    | .halted tokens rest =>
      if closing then .ok (tokens ++ [.text rest])
      else return tokens ++ (← tokensFrom fuel true rest)
    | .incomplete =>
      if closing then
        return .text (incompleteText r).1 :: (← tokensFrom fuel true (incompleteText r).2)
      else tokensFrom fuel true (c :: r)

/-- The tokens of a text of markup. Every step but one takes a character. -/
def tokens (s : List Char) : Except Refusal (List Token) := tokensFrom (s.length + 2) false s

end SpecGrammar.Markup
