import SpecGrammar.Text.Quoted

/-!
# Grammar symbols

The symbols that an alternative of a production is made of, the alternatives, and the productions and
directives that a piece of grammar notation consists of.
-/

namespace SpecGrammar.Notation

/-- One symbol of an alternative. -/
inductive Symbol
  /-- A literal text of the language. -/
  | terminal (text : List Char)
  /-- A character known by its name in angle brackets, which belong to the text. -/
  | namedCharacter (text : List Char)
  | nonterminal (name : List Char) (arguments : List (List Char)) (optional : Bool)
  /-- A restriction on what follows: an operator and the sequences it compares with. -/
  | lookahead (operator : List Char) (operands : List (List Symbol))
  /-- None of the members may stand here. -/
  | noSymbolHere (members : List Symbol)
  /-- The left symbol where it is none of the exclusions. -/
  | butNot (left : Symbol) (exclusions : List Symbol)
  | empty
  /-- An alternative described in words. -/
  | prose (text : List Char)
  deriving Repr, BEq, Inhabited

/-- One alternative of a production, with the text it was read from. -/
structure Alternative where
  source : List Char
  constraints : List (List Char) := []
  symbols : List Symbol
  label : Option (List Char) := none
  deriving Repr, BEq

/-- What a production stands for: alternatives, or a list of literal texts. -/
inductive Body
  | alternatives (alternatives : List Alternative)
  | oneOf (terminals : List (List Char))
  deriving Repr, BEq

structure Production where
  name : List Char
  parameters : List (List Char) := []
  /-- The number of colons after the name. -/
  colons : Nat
  body : Option Body
  deriving Repr, BEq

inductive Element
  | directive (text : List Char)
  | production (production : Production)
  deriving Repr, BEq

/-- A piece of grammar notation: its text and the elements read from it. -/
structure Grammar where
  text : List Char
  elements : List Element
  deriving Repr, BEq

/-! ### Symbols in messages -/

def showTexts (texts : List (List Char)) : List Char :=
  Text.parenthesized (texts.map Text.quoted)

mutual

/-- The form in which a message names a symbol. -/
def Symbol.describe : Symbol → List Char
  | .terminal text => "Terminal(text=".toList ++ Text.quoted text ++ [')']
  | .namedCharacter text => "NamedCharacter(text=".toList ++ Text.quoted text ++ [')']
  | .nonterminal name arguments optional =>
    "Nonterminal(name=".toList ++ Text.quoted name ++ ", arguments=".toList ++ showTexts arguments
      ++ ", optional=".toList ++ (if optional then "True)".toList else "False)".toList)
  | .lookahead operator operands =>
    "LookaheadAssertion(operator=".toList ++ Text.quoted operator ++ ", operands=".toList
      ++ Text.parenthesized (describeSequences operands) ++ [')']
  | .noSymbolHere members =>
    "NoSymbolHereAssertion(symbols=".toList ++ Text.parenthesized (describeAll members) ++ [')']
  | .butNot left exclusions =>
    "ButNotSymbol(left=".toList ++ left.describe ++ ", exclusions=".toList
      ++ Text.parenthesized (describeAll exclusions) ++ [')']
  | .empty => "EmptyAssertion()".toList
  | .prose text => "Prose(text=".toList ++ Text.quoted text ++ [')']

def describeAll : List Symbol → List (List Char)
  | [] => []
  | s :: r => s.describe :: describeAll r

def describeSequences : List (List Symbol) → List (List Char)
  | [] => []
  | s :: r => Text.parenthesized (describeAll s) :: describeSequences r

end

end SpecGrammar.Notation
