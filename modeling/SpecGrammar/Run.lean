import SpecGrammar.Document.Json
import SpecGrammar.Specification

/-!
# Runs

A run fetches the specification, extracts the document from it and writes the artifact and its copy.
The document is complete before anything of it is written.

The document is written to a file, the artifact, and a copy of that replaces the file from which other
programs read it. The file to be replaced is removed before the artifact is copied, so nothing of it
survives.
-/

namespace SpecGrammar

/-! ### The artifact and its copy -/

/-- Writes a document to a file. -/
def writeArtifact (document : Document) (p : Path) : Job Path := do
  Job.save p document.write
  return p

/-- Writes the document of some texts to a file. -/
def writeTexts (texts : List (List Char)) (p : Path) : Job Path := do
  let (document, records) := assembleTexts texts
  Job.reportAll records
  match document with
  | .ok document => writeArtifact document p
  | .error e => throw (.extraction e)

/-- Replaces a file by a copy of the artifact. -/
def replaceCopy (artifact destination : Path) : Job Path := do
  unless ← Job.look (·.exists? artifact) do throw (.noArtifact artifact)
  if ← Job.look (·.exists? destination) then
    Job.report
      ⟨.info, .artifact, "Removing previous downstream copy at ".toList ++ destination.toText⟩
    Job.change (·.remove destination)
  Job.makeDirectories destination.parent
  Job.change (·.copy artifact destination)
  return destination

/-! ### Runs -/

namespace Settings

/-- How the specification of some settings is fetched. -/
def fetcher (settings : Settings) (session : Session) : Fetcher :=
  ⟨settings.url, settings.cachePath, .binary settings.timeout, session⟩

/-- Extracts the document from the text of a specification. -/
def extract (settings : Settings) (text : List Char) : Job Document := do
  let (document, records) := extractDocument settings.selection text
  Job.reportAll records
  match document with
  | .ok document => return document
  | .error e => throw (.extraction e)

/-- Runs once and gives the paths written. -/
def run (settings : Settings) (session : Session) (refresh : Bool) : Job (List Path) := do
  let text ← (settings.fetcher session).fetch refresh
  let document ← settings.extract text
  let artifact ← writeArtifact document settings.artifact
  match settings.downstream with
  | none => return [artifact]
  | some destination => return [artifact, ← replaceCopy artifact destination]

/-- Runs a number of times. -/
def runTimes (settings : Settings) (session : Session) (refresh : Bool) :
    Nat → Job (List (List Path))
  | 0 => return []
  | n + 1 => do
    let paths ← settings.run session refresh
    return paths :: (← settings.runTimes session refresh n)

end Settings

end SpecGrammar
