import SpecGrammar.Notation.Symbol

/-!
# The normalized document

What becomes of a grammar for the tools that read it: the productions with alternatives, each a
sequence of nodes, and the productions that are lists of literal texts.
-/

namespace SpecGrammar

/-- One element of a normalized alternative. -/
inductive Node
  | literal (text : List Char)
  | symbol (text : List Char)
  | name (name : List Char) (optional : Bool)
  | oneOf (options : List (List Char))
  deriving DecidableEq, Repr

/-- A normalized alternative with the text it was read from. -/
structure NodeSequence where
  source : List Char
  nodes : List Node
  deriving DecidableEq, Repr

structure SequenceProduction where
  name : List Char
  body : List NodeSequence
  deriving DecidableEq, Repr

structure OneOfProduction where
  name : List Char
  terminals : List (List Char)
  deriving DecidableEq, Repr

structure Document where
  sequences : List SequenceProduction := []
  oneOfs : List OneOfProduction := []
  deriving DecidableEq, Repr

end SpecGrammar
