import SpecGrammar.Document.Node
import SpecGrammar.Reference.Decode

/-!
# Normalization

What a symbol contributes to a normalized alternative. Restrictions on what follows and exclusions
contribute nothing; a set of forbidden texts becomes a choice unless a line terminator is among its
members. Prose, and sets with other members, cannot be expressed.
-/

namespace SpecGrammar

open Notation (Symbol)

/-- Why a symbol has no normalized form. -/
inductive Inexpressible
  | prose (text : List Char)
  | member (symbol : Symbol)
  deriving Repr

def Inexpressible.message : Inexpressible → List Char
  | .prose text => "Unhandled prose symbol ".toList ++ Text.quoted text
  | .member symbol =>
    "Unhandled member ".toList ++ symbol.describe ++ " in inline symbol set".toList

/-- The nonterminal that stands for a line break. -/
def lineTerminator : List Char := "LineTerminator".toList

/-- What a member of a forbidden set contributes: its text, or nothing for a line terminator. -/
def memberOption : Symbol → Except Inexpressible (Option (List Char))
  | .terminal text => .ok (some text)
  | .nonterminal name arguments optional =>
    if name = lineTerminator then .ok none else .error (.member (.nonterminal name arguments optional))
  | symbol => .error (.member symbol)

/-- The choice among the members of a forbidden set, which is left out if it mentions a line
terminator. -/
def normalizeSet (members : List Symbol) : Except Inexpressible (List Node) :=
  return match (← members.mapM memberOption).mapM id with
    | some options => [.oneOf options]
    | none => []

/-- The nodes of one symbol. -/
def normalizeSymbol : Symbol → Except Inexpressible (List Node)
  | .terminal text => .ok [.literal text]
  | .namedCharacter text => .ok [.symbol text]
  | .nonterminal name _ optional => .ok [.name name optional]
  | .lookahead _ _ => .ok []
  | .noSymbolHere members => normalizeSet members
  | .butNot left _ => normalizeSymbol left
  | .empty => .ok []
  | .prose text => .error (.prose text)

/-- The nodes of several symbols in a row; the first one that has no normalized form wins. -/
def normalize : List Symbol → Except Inexpressible (List Node)
  | [] => .ok []
  | s :: r => return (← normalizeSymbol s) ++ (← normalize r)

def normalizeAlternative (a : Notation.Alternative) : Except Inexpressible NodeSequence :=
  return ⟨a.source, ← normalize a.symbols⟩

/-- The texts of a list of terminals, character references decoded; the first number of too many digits
wins. -/
def normalizeTerminals (terminals : List (List Char)) :
    Except Decimal.Excess (List (List Char)) :=
  terminals.mapM Reference.tryDecode

end SpecGrammar
