import SpecGrammar.Document.Assembly
import SpecGrammar.Selection

/-!
# Extracting a document

From the text of a specification to the normalized document: the fragments are extracted and selected,
and the selected ones are read, normalized and assembled one after the other.
-/

namespace SpecGrammar

open Notation

/-- Why no document can be extracted. -/
inductive ExtractionError
  | markup (refusal : Markup.Refusal)
  | unreadable (fragment : List Char) (defect : Defect)
  | obstructed (obstacle : Obstacle)
  deriving Repr

/-- The report of a fragment that cannot be read. -/
def parseRecord (index : Int) : Record :=
  ⟨.error, .extraction, "error while parsing fragment ".toList ++ showInt index⟩

/-- The notation in a text, or why it cannot be read. -/
def readText (text : List Char) : Except (ExtractionError × List Record) Grammar :=
  (Grammar.parse text).mapError fun defect => (.unreadable text defect, [])

/-- The notation in a fragment; that it cannot be read is reported. -/
def readFragment (f : Fragment) : Except (ExtractionError × List Record) Grammar :=
  (Grammar.parse f.text).mapError fun defect => (.unreadable f.text defect, [parseRecord f.index])

variable {α : Type}

/-- Adds pieces one by one, each read only when those before it have been added, up to the first that
cannot be read or normalized. -/
def Assembly.addEach (read : α → Except (ExtractionError × List Record) Grammar) (a : Assembly) :
    List α → Assembly × Option ExtractionError × List Record
  | [] => (a, none, [])
  | piece :: r =>
    match read piece with
    | .error (error, records) => (a, some error, records)
    | .ok grammar =>
      match a.add grammar with
      | (a, some obstacle) => (a, some (.obstructed obstacle), obstacle.records)
      | (a, none) => Assembly.addEach read a r

/-- The document of some pieces, with the reports on the way. -/
def assemble (read : α → Except (ExtractionError × List Record) Grammar) (pieces : List α) :
    Except ExtractionError Document × List Record :=
  match Assembly.addEach read {} pieces with
  | (_, some error, records) => (.error error, records)
  | (a, none, records) =>
    let (document, record) := a.build
    (.ok document, records ++ [record])

def Assembly.addTexts (a : Assembly) (texts : List (List Char)) :
    Assembly × Option ExtractionError × List Record :=
  a.addEach readText texts

/-- The document of some texts, with the reports on the way. -/
def assembleTexts (texts : List (List Char)) : Except ExtractionError Document × List Record :=
  assemble readText texts

/-- The document of a specification, with the reports on the way. -/
def extractDocument (selection : Selection) (text : List Char) :
    Except ExtractionError Document × List Record :=
  match Markup.extractFragments text with
  | .error refusal => (.error (.markup refusal), [])
  | .ok fragments =>
    let (selected, records) := selection.select fragments
    let (outcome, reports) := assemble readFragment selected
    (outcome, records ++ reports)

end SpecGrammar
