import SpecGrammar.Markup.Element

/-!
# Grammar fragments

The pieces of grammar notation in a document: one for each grammar element, in the order of their start
tags, with the identifiers of the elements around it, the innermost first.
-/

namespace SpecGrammar

open Markup (Node)

/-- A piece of grammar notation and what the document says about it. -/
structure Fragment where
  text : List Char
  /-- The identifiers of the elements around it, the innermost first; some have none. -/
  sectionIds : List (Option (List Char)) := []
  grammarType : Option (List Char) := none
  isExample : Bool := false
  index : Int := 0
  deriving DecidableEq, Repr

namespace Fragment

/-- The identifier at a depth counted from the innermost element; a negative depth counts from the
outermost one, and there is an error if it counts too far. -/
def sectionId? (f : Fragment) (depth : Int) : Option (Option (List Char)) :=
  if depth < f.sectionIds.length then
    if 0 ≤ depth then some (f.sectionIds.getD depth.toNat none)
    else if -depth ≤ f.sectionIds.length then
      some (f.sectionIds.getD (f.sectionIds.length - (-depth).toNat) none)
    else none
  else some none

end Fragment

namespace Markup

def grammarElement : List Char := "emu-grammar".toList

/-- The identifier of an element; an empty one is none. -/
def identifier? (attributes : List Attribute) : Option (List Char) :=
  (attribute? attributes "id".toList).filter (· ≠ [])

/-- The fragment of a grammar element. -/
def fragmentOf (around : List (Option (List Char))) (attributes : List Attribute)
    (children : List Node) : Fragment :=
  { text := shownTexts children
    sectionIds := around
    grammarType := attribute? attributes "type".toList
    isExample := (attribute? attributes "example".toList).isSome }

mutual

/-- The fragments within a node, given the identifiers around it. -/
def Node.fragments (around : List (Option (List Char))) : Node → List Fragment
  | .text _ _ => []
  | .element name attributes children =>
    let inner := fragmentsWithin (identifier? attributes :: around) children
    if name = grammarElement then fragmentOf around attributes children :: inner else inner

def fragmentsWithin (around : List (Option (List Char))) : List Node → List Fragment
  | [] => []
  | node :: r => node.fragments around ++ fragmentsWithin around r

end

/-- The fragments of a document, numbered in order. -/
def extractFragments (s : List Char) : Except Refusal (List Fragment) :=
  return (fragmentsWithin [] (nodes (← tokens s))).mapIdx fun i f => { f with index := i }

end Markup

end SpecGrammar
