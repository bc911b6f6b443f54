import SpecGrammar.Document.Node
import SpecGrammar.Text.Quoted

/-!
# The written document

A document is written as one line of JSON: members in a fixed order, a space after each comma and
colon, and characters beyond ASCII as themselves.
-/

namespace SpecGrammar

/-- The values a document is made of. -/
inductive Json
  | bool (value : Bool)
  | string (text : List Char)
  | array (items : List Json)
  | object (members : List (List Char × Json))
  deriving Repr

namespace Json

/-- A character within a string: quotes, backslashes and controls are escaped. -/
def escapeChar (c : Char) : List Char :=
  if c == '"' then ['\\', '"']
  else if c == '\\' then ['\\', '\\']
  else if c == '\n' then ['\\', 'n']
  else if c == '\r' then ['\\', 'r']
  else if c == '\t' then ['\\', 't']
  else if c == '\x0c' then ['\\', 'f']
  else if c == '\x08' then ['\\', 'b']
  else if c.toNat < 0x20 then '\\' :: 'u' :: Text.hexDigits 4 c.toNat
  else [c]

def writeString (s : List Char) : List Char := '"' :: s.flatMap escapeChar ++ ['"']

mutual

def write : Json → List Char
  | .bool value => if value then "true".toList else "false".toList
  | .string text => writeString text
  | .array items => '[' :: Text.joinWith [',', ' '] (writeAll items) ++ [']']
  | .object members => '\x7b' :: Text.joinWith [',', ' '] (writeMembers members) ++ ['\x7d']

def writeAll : List Json → List (List Char)
  | [] => []
  | v :: r => v.write :: writeAll r

def writeMembers : List (List Char × Json) → List (List Char)
  | [] => []
  | (key, v) :: r => (writeString key ++ ':' :: ' ' :: v.write) :: writeMembers r

end

def member (key : String) (value : Json) : List Char × Json := (key.toList, value)

def strings (texts : List (List Char)) : Json := .array (texts.map .string)

end Json

open Json (member)

def Node.toJson : Node → Json
  | .literal text => .object [member "literal" (.string text)]
  | .symbol text => .object [member "symbol" (.string text)]
  | .name n optional =>
    .object [member "name" (.object
      (member "name" (.string n) :: if optional then [member "optional" (.bool true)] else []))]
  | .oneOf options => .object [member "oneOf" (Json.strings options)]

def NodeSequence.toJson (s : NodeSequence) : Json :=
  .object [member "source" (.string s.source),
    member "sequence" (.array (s.nodes.map Node.toJson))]

def SequenceProduction.toJson (p : SequenceProduction) : Json :=
  .object [member "name" (.string p.name), member "body" (.array (p.body.map NodeSequence.toJson))]

def OneOfProduction.toJson (p : OneOfProduction) : Json :=
  .object [member "name" (.string p.name), member "terminals" (Json.strings p.terminals)]

namespace Document

def toJson (d : Document) : Json :=
  .object [member "sequenceProductions" (.array (d.sequences.map SequenceProduction.toJson)),
    member "oneOfProductions" (.array (d.oneOfs.map OneOfProduction.toJson))]

/-- The text of a document as it is stored. -/
def write (d : Document) : List Char := d.toJson.write

end Document

end SpecGrammar
