import SpecGrammar.Notation.Symbol
import SpecGrammar.Notation.Token
import SpecGrammar.Reference.Decode

/-!
# Reading an alternative token by token

The state of a reader of an alternative, the tokens that each state accepts, and what a token makes of
it. A state holds everything read so far, so the alternative is complete as soon as the text ends in a
state that may end.

The kinds a state looks for are those that may follow the last token anywhere, which can be more than
those that may follow it here; a token of the difference is read and then refused. This decides how
an error is reported, and nothing else.
-/

namespace SpecGrammar.Notation

/-- What a token stands for as a symbol on its own. -/
def Token.symbol? (t : Token) : Option Symbol :=
  match t.kind with
  | .terminal => some (.terminal (t.text.drop 1).dropLast)
  | .namedCharacter => some (.namedCharacter (Reference.decode t.text))
  | .nonterminal => some (.nonterminal t.text [] false)
  | _ => none

/-- The description in a prose token, without the bracket that opens it. -/
def proseText (token : List Char) : List Char :=
  Text.trim ((Reference.decode token).drop 1)

/-- The operands of a lookahead restriction under way: the operator, whether braces enclose the
operands, the complete ones, and the symbols of the one being read. -/
structure Operands where
  operator : List Char
  braced : Bool
  complete : List (List Symbol)
  current : List Symbol
  deriving Repr

namespace Operands

def add (o : Operands) (s : Symbol) : Operands := { o with current := o.current ++ [s] }

def all (o : Operands) : List (List Symbol) := o.complete ++ [o.current]

/-- The restriction once its last operand is complete. -/
def restriction (o : Operands) : Symbol := .lookahead o.operator o.all

end Operands

/-- Where a reader stands within the item being read. -/
inductive Place
  | start
  | guarded
  /-- After the name of a nonterminal. -/
  | name (name : List Char)
  | arguments (name : List Char) (arguments : List (List Char))
  /-- After the question mark of a nonterminal. -/
  | optional (name : List Char) (arguments : List (List Char))
  /-- After a terminal or a named character. -/
  | single (symbol : Symbol)
  /-- After the closing bracket of an item. -/
  | closed (symbol : Symbol)
  | but (left : Symbol)
  | butNot (left : Symbol)
  | butNotOne (left : Symbol)
  /-- Before an exclusion. -/
  | excluding (left : Symbol) (exclusions : List Symbol)
  | excluded (left : Symbol) (exclusions : List Symbol)
  /-- After the opening bracket of an item. -/
  | opened
  | openedEmpty
  | openedLookahead
  | operator (operator : List Char)
  /-- After a nonterminal as the only operand. -/
  | operandName (operator name : List Char)
  /-- After an opening brace or a comma. -/
  | operandStart (operator : List Char) (complete : List (List Symbol))
  | operand (operands : Operands)
  /-- After an opening bracket within an operand. -/
  | operandOpened (operands : Operands)
  | braceClosed (operator : List Char) (operands : List (List Symbol))
  /-- Before a member of a set that may not stand here; within an operand if there is one. -/
  | forbidding (within : Option Operands) (members : List Symbol)
  | forbidden (within : Option Operands) (members : List Symbol)
  | forbiddenHere (within : Option Operands) (members : List Symbol)
  /-- After the token of an alternative in words. -/
  | prose (token : List Char)
  | labelled (label : List Char)
  deriving Repr

/-- A reader's state: the constraints and items read before the item it stands in. -/
structure Reading where
  constraints : List (List Char) := []
  before : List Symbol := []
  place : Place := .start
  deriving Repr

/-! ### What a state looks for -/

/-- The kinds looked for after a symbol that may be an item, an exclusion, a member or an operand. -/
def kindsAfter : Symbol → List Kind
  | .terminal _ | .namedCharacter _ =>
    [.but, .comma, .here, .label, .leftBracket, .namedCharacter, .nonterminal, .or, .rightBrace,
      .rightBracket, .terminal]
  | .nonterminal _ _ _ =>
    [.here, .label, .leftBracket, .namedCharacter, .nonterminal, .or, .rightBracket, .terminal]
  | .noSymbolHere _ =>
    [.comma, .label, .leftBracket, .namedCharacter, .nonterminal, .rightBrace, .rightBracket,
      .terminal]
  | _ => [.label, .leftBracket, .namedCharacter, .nonterminal, .terminal]

/-- The kinds looked for after the last of several symbols. -/
def kindsAfterLast (symbols : List Symbol) : List Kind :=
  match symbols.getLast? with
  | some s => kindsAfter s
  | none => []

/-- The kinds that open a symbol that needs no brackets. -/
def plainKinds : List Kind := [.namedCharacter, .nonterminal, .terminal]

def Place.kinds : Place → List Kind
  | .start => [.leftBracket, .namedCharacter, .nonterminal, .params, .prose, .terminal]
  | .guarded => [.leftBracket, .namedCharacter, .nonterminal, .prose, .terminal]
  | .name _ =>
    [.but, .label, .leftBracket, .namedCharacter, .nonterminal, .question, .params, .terminal]
  | .arguments _ _ =>
    [.but, .label, .leftBracket, .namedCharacter, .nonterminal, .question, .terminal]
  | .optional _ _ => [.but, .label, .leftBracket, .namedCharacter, .nonterminal, .terminal]
  | .single s => kindsAfter s
  | .closed s => kindsAfter s
  | .but _ => [.not]
  | .butNot _ => .one :: plainKinds
  | .butNotOne _ => [.of]
  | .excluding _ _ => plainKinds
  | .excluded _ exclusions => kindsAfterLast exclusions
  | .opened => [.empty, .lookahead, .no]
  | .openedEmpty => [.rightBracket]
  | .openedLookahead => [.operator]
  | .operator _ => [.leftBrace, .leftBracket, .namedCharacter, .nonterminal, .terminal]
  | .operandName _ n => kindsAfter (.nonterminal n [] false)
  | .operandStart _ _ => [.leftBracket, .namedCharacter, .terminal]
  | .operand operands => kindsAfterLast operands.current
  | .operandOpened _ => [.no]
  | .braceClosed _ _ => [.rightBracket]
  | .forbidding _ _ => plainKinds
  | .forbidden _ members => kindsAfterLast members
  | .forbiddenHere _ _ => [.rightBracket]
  | .prose _ => [.label]
  | .labelled _ => []

def Reading.kinds (r : Reading) : List Kind := r.place.kinds

/-! ### What a token makes of a state -/

/-- The item a reader has complete where it stands, if it may end there. -/
def Place.item? : Place → Option Symbol
  | .name n => some (.nonterminal n [] false)
  | .arguments n args => some (.nonterminal n args false)
  | .optional n args => some (.nonterminal n args true)
  | .single s => some s
  | .closed s => some s
  | .excluded left exclusions => some (.butNot left exclusions)
  | _ => none

/-- The item that `but not` may follow where a reader stands. -/
def Place.left? : Place → Option Symbol
  | .name n => some (.nonterminal n [] false)
  | .arguments n args => some (.nonterminal n args false)
  | .optional n args => some (.nonterminal n args true)
  | .single s => some s
  | _ => none

/-- The place after the token that opens an item. -/
def Place.ofOpening? (t : Token) : Option Place :=
  match t.kind with
  | .nonterminal => some (.name t.text)
  | .leftBracket => some .opened
  | .terminal | .namedCharacter => t.symbol?.map .single
  | _ => none

/-- What a token stands for as a part of an operand. -/
def Token.operandSymbol? (t : Token) : Option Symbol :=
  match t.kind with
  | .terminal | .namedCharacter => t.symbol?
  | _ => none

/-- The place after a token that stands after a symbol of an operand. -/
def Operands.after? (o : Operands) (t : Token) : Option Place :=
  match t.kind, o.braced with
  | .leftBracket, _ => some (.operandOpened o)
  | .comma, true => some (.operandStart o.operator o.all)
  | .rightBrace, true => some (.braceClosed o.operator o.all)
  | .rightBracket, false => some (.closed o.restriction)
  | _, _ => t.operandSymbol?.map fun s => .operand (o.add s)

/-- The place after a token that goes on with the item being read. -/
def Place.within? (p : Place) (t : Token) : Option Place :=
  match p with
  | .name n =>
    match t.kind with
    | .params => some (.arguments n (parameters t.text))
    | .question => some (.optional n [])
    | _ => none
  | .arguments n args => if t.kind = .question then some (.optional n args) else none
  | .but left => if t.kind = .not then some (.butNot left) else none
  | .butNot left =>
    if t.kind = .one then some (.butNotOne left) else t.symbol?.map fun s => .excluded left [s]
  | .butNotOne left => if t.kind = .of then some (.excluding left []) else none
  | .excluding left exclusions => t.symbol?.map fun s => .excluded left (exclusions ++ [s])
  | .excluded left exclusions => if t.kind = .or then some (.excluding left exclusions) else none
  | .opened =>
    match t.kind with
    | .empty => some .openedEmpty
    | .lookahead => some .openedLookahead
    | .no => some (.forbidding none [])
    | _ => none
  | .openedEmpty => if t.kind = .rightBracket then some (.closed .empty) else none
  | .openedLookahead =>
    if t.kind = .operator then some (.operator (Reference.decode t.text)) else none
  | .operator op =>
    match t.kind with
    | .nonterminal => some (.operandName op t.text)
    | .leftBrace => some (.operandStart op [])
    | .leftBracket => some (.operandOpened ⟨op, false, [], []⟩)
    | _ => t.operandSymbol?.map fun s => .operand ⟨op, false, [], [s]⟩
  | .operandName op n =>
    if t.kind = .rightBracket then some (.closed (.lookahead op [[.nonterminal n [] false]]))
    else none
  | .operandStart op complete =>
    if t.kind = .leftBracket then some (.operandOpened ⟨op, true, complete, []⟩)
    else t.operandSymbol?.map fun s => .operand ⟨op, true, complete, [s]⟩
  | .operand operands => operands.after? t
  | .operandOpened operands => if t.kind = .no then some (.forbidding (some operands) []) else none
  | .braceClosed op operands =>
    if t.kind = .rightBracket then some (.closed (.lookahead op operands)) else none
  | .forbidding within members => t.symbol?.map fun s => .forbidden within (members ++ [s])
  | .forbidden within members =>
    match t.kind with
    | .or => some (.forbidding within members)
    | .here => some (.forbiddenHere within members)
    | _ => none
  | .forbiddenHere within members =>
    if t.kind = .rightBracket then
      match within with
      | none => some (.closed (.noSymbolHere members))
      | some operands => some (.operand (operands.add (.noSymbolHere members)))
    else none
  | _ => none

/-- The state after a token, or nothing if the token may not stand here. A token goes on with the item
being read, or else ends it and opens the next one. -/
def Reading.read? (r : Reading) (t : Token) : Option Reading :=
  match r.place, t.kind with
  | .start, .params => some { r with constraints := parameters t.text, place := .guarded }
  | .start, .prose | .guarded, .prose =>
    some { r with place := .prose t.text }
  | .start, _ | .guarded, _ => (Place.ofOpening? t).map fun p => { r with place := p }
  | .prose token, .label =>
    some { r with before := [.prose (proseText token)], place := .labelled (t.text.drop 1) }
  | place, .label =>
    place.item?.map fun s =>
      { r with before := r.before ++ [s], place := .labelled (t.text.drop 1) }
  | place, .but => place.left?.map fun s => { r with place := .but s }
  | place, _ =>
    match place.within? t with
    | some p => some { r with place := p }
    | none => do
      let s ← place.item?
      let p ← Place.ofOpening? t
      return { r with before := r.before ++ [s], place := p }

/-- A number of too many digits in the words of an alternative. -/
def Reading.excess? (r : Reading) : Option Decimal.Excess :=
  match r.place with
  | .prose token => Reference.excess? token
  | _ => none

/-- The alternative read when the text ends in this state, if it may end. -/
def Reading.finish? (source : List Char) (r : Reading) : Option Alternative :=
  match r.place with
  | .prose token => some ⟨source, r.constraints, [.prose (proseText token)], none⟩
  | .labelled label => some ⟨source, r.constraints, r.before, some label⟩
  | place => place.item?.map fun s => ⟨source, r.constraints, r.before ++ [s], none⟩

end SpecGrammar.Notation
