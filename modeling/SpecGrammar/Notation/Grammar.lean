import SpecGrammar.Notation.Alternative
import SpecGrammar.Notation.Header
import SpecGrammar.Text.Line

/-!
# Pieces of grammar notation

A piece of grammar notation is read line by line. Blank lines and comments are left out. A line at
column zero is a directive or the header of a production, and the indented lines after it belong to
it. A production has its body either on its header line or on the indented lines.
-/

namespace SpecGrammar.Notation

/-- Why a text is no grammar notation. -/
inductive Defect
  | indentedOutside (line : List Char)
  | notHeader (line : List Char)
  | twoBodies (name : List Char)
  /-- An alternative or a list of terminals cannot be read. -/
  | misread (source : List Char) (misreading : Misreading)
  deriving Repr

/-- The wording of a defect that has no place within an alternative. -/
def Defect.reason? : Defect → Option (List Char)
  | .indentedOutside line => some ("Indented line outside a production: ".toList ++ Text.quoted line)
  | .notHeader line => some ("Expected a production header, got ".toList ++ Text.quoted line)
  | .twoBodies name =>
    some ("Production '".toList ++ name ++ "' has both an inline and an indented body".toList)
  | .misread _ (.excess excess) => some excess.message
  | .misread _ _ => none

/-- The message about a fragment that cannot be read. -/
def fragmentMessage (reason fragment : List Char) : List Char :=
  "Failed to parse grammar fragment: ".toList ++ reason ++ '\n' :: fragment

/-! ### Lines -/

/-- A line that is neither blank nor a comment, trimmed. -/
structure Line where
  indented : Bool
  text : List Char
  deriving DecidableEq, Repr

def commentMark : List Char := ['/', '/']

def directiveMark : List Char := ['@']

/-- A line as it counts for the notation; blank lines and comments do not. -/
def Line.ofText? (line : List Char) : Option Line :=
  let text := Text.trim line
  if text = [] || commentMark.isPrefixOf text then none
  else some { indented := line.head?.any Text.isBlank, text }

/-- The lines of a text that count. -/
def significantLines (s : List Char) : List Line :=
  (Text.flushLines s).filterMap Line.ofText?

/-- A line at column zero and the indented lines below it. -/
structure Block where
  head : List Char
  body : List (List Char)
  deriving DecidableEq, Repr

/-- The indented lines before the first line at column zero, and the blocks from there on. -/
def blocks : List Line → List (List Char) × List Block
  | [] => ([], [])
  | line :: r =>
    let (body, rest) := blocks r
    if line.indented then (line.text :: body, rest) else ([], ⟨line.text, body⟩ :: rest)

/-! ### Productions -/

def oneOfMark : List Char := "one of".toList

def readAlternative (source : List Char) : Except Defect Alternative :=
  (parseAlternative source).mapError (.misread source)

def readTerminals (source : List Char) : Except Defect (List (List Char)) :=
  (parseTerminals source).mapError (.misread source)

/-- The body of a production from the rest of its header and the indented lines below it. -/
def readBody (header : Header) (body : List (List Char)) : Except Defect (Option Body) :=
  match header.rest with
  | some rest =>
    if rest = oneOfMark then return some (.oneOf (← body.mapM readTerminals).flatten)
    else if body ≠ [] then .error (.twoBodies header.name)
    else if (oneOfMark ++ [' ']).isPrefixOf rest then
      return some (.oneOf (← readTerminals (rest.drop oneOfMark.length)))
    else return some (.alternatives [← readAlternative rest])
  | none =>
    if body = [] then return none
    else return some (.alternatives (← body.mapM readAlternative))

def readProduction (header : Header) (body : List (List Char)) : Except Defect Production :=
  return {
    name := header.name
    parameters := (header.bracketed.map parameters).getD []
    colons := header.colons
    body := ← readBody header body }

/-- The element of a block. -/
def Block.read (block : Block) : Except Defect Element :=
  if directiveMark.isPrefixOf block.head then
    match block.body with
    | [] => return .directive block.head
    | line :: _ => .error (.indentedOutside line)
  else
    match Header.parse? block.head with
    | none => .error (.notHeader block.head)
    | some header => return .production (← readProduction header block.body)

/-- The elements of a piece of grammar notation, in order; the first defect wins. -/
def parseElements (s : List Char) : Except Defect (List Element) :=
  match blocks (significantLines s) with
  | (line :: _, _) => .error (.indentedOutside line)
  | ([], blocks) => blocks.mapM Block.read

/-- Reads a piece of grammar notation. -/
def Grammar.parse (text : List Char) : Except Defect Grammar :=
  return ⟨text, ← parseElements text⟩

end SpecGrammar.Notation
