import SpecGrammar.Extraction
import SpecGrammar.Files
import SpecGrammar.Settings
import SpecGrammar.Yaml.Construction

/-!
# The workspace of a run

What a run can see and change: the files, the answers that the server will give, the traffic with it,
and the records of what was done. A job works on a workspace and may fail; what it changed before
that stays changed.
-/

namespace SpecGrammar

/-! ### Requests and answers -/

structure Request where
  url : List Char
  timeout : Seconds
  deriving DecidableEq, Repr

/-- What comes of a request: a response, or no response for some reason. -/
inductive Answer
  | response (status : Nat) (reason text : List Char)
  | failure (message : List Char)
  deriving DecidableEq, Repr

/-- Why a run stops. -/
inductive RunError
  | file (e : FileError)
  | noSettings (path : Path)
  | noArtifact (path : Path)
  | unreadableSettings (f : Yaml.Fault)
  | wrongSettings (m : Misconfiguration)
  | fetch (url cause : List Char)
  | extraction (e : ExtractionError)
  | unknownLevel

/-- The message of an error that has one of its own. -/
def RunError.message? : RunError → Option (List Char)
  | .noSettings path =>
    some ("Configuration file '".toList ++ path.toText ++ "' not found.".toList)
  | .noArtifact path => some ("Artifact '".toList ++ path.toText ++ "' not found.".toList)
  | .wrongSettings m => m.message?
  | .fetch url cause =>
    some ("Failed to fetch specification from '".toList ++ url ++ "': ".toList ++ cause)
  | _ => none

structure Workspace where
  files : Files
  answers : List Answer := []
  requests : List Request := []
  closedSessions : Nat := 0
  records : List Record := []

/-! ### Jobs -/

abbrev Job := ExceptT RunError (StateM Workspace)

namespace Job

def report (r : Record) : Job Unit :=
  modify fun w => { w with records := w.records ++ [r] }

def reportAll (rs : List Record) : Job Unit :=
  modify fun w => { w with records := w.records ++ rs }

/-- Looks something up in the files. -/
def look (f : Files → Except FileError α) : Job α := do
  match f (← get).files with
  | .ok a => return a
  | .error e => throw (.file e)

/-- Changes the files. -/
def change (f : Files → Except FileError Files) : Job Unit := do
  let files ← look f
  modify fun w => { w with files := files }

/-- Makes a directory and those it stands in, unless they are there. -/
def makeDirectories (p : Path) : Job Unit := do
  let (result, files) := (← get).files.makeDirectories p
  modify fun w => { w with files := files }
  match result with
  | .ok () => return
  | .error e => throw (.file e)

/-- Writes a text to a file and makes the directories around it. -/
def save (p : Path) (text : List Char) : Job Unit := do
  makeDirectories p.parent
  change fun files => files.writeText p text

/-- The settings in a file. -/
def loadSettings (p : Path) : Job Settings := do
  unless ← look (·.exists? p) do throw (.noSettings p)
  let text ← look (·.readText p)
  match Yaml.load text with
  | .error f => throw (.unreadableSettings f)
  | .ok d =>
    match Settings.ofData d with
    | .error m => throw (.wrongSettings m)
    | .ok settings => return settings

end Job

end SpecGrammar
