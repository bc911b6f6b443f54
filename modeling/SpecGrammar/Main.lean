import SpecGrammar.CommandLine

/-!
# The program

The command line over the files of the machine: the files that a command can touch are read into a
workspace, the command runs on that, and what it changed is written back. Nothing is downloaded, so a
specification has to be in the cache.
-/

namespace SpecGrammar.Program

/-- The text of the place that some names lead to. -/
def placeText (names : Location) : String := String.ofList ('/' :: Text.joinWith ['/'] names)

/-- What is stored at a place of the machine. -/
def entryAt? (names : Location) : IO (Option Entry) := do
  try
    return some (.file (← IO.FS.readBinFile (placeText names)))
  catch e =>
    match e with
    | .inappropriateType .. => return some .directory
    | _ => return none

/-- Takes a place of the machine into some files. -/
def take (files : Files) (place : Location) : IO Files := do
  if (files.find? place).isSome then return files
  match ← entryAt? place with
  | some entry => return files.put place entry
  | none => return files

/-- Takes the places on the way from `place` along some names into some files. -/
def takeAlong (files : Files) (place : Location) : List (List Char) → IO Files
  | [] => return files
  | name :: names => do
    let place := if name == ['.', '.'] then place.dropLast else place ++ [name]
    takeAlong (← take files place) place names

/-- Takes the places on the way along a path into some files. -/
def takePath (files : Files) (p : Path) : IO Files :=
  takeAlong files (if p.origin == .current then files.current else []) p.names

/-- The paths that a command can touch under some settings. -/
def touched (settings : Settings) : List Path :=
  [settings.cachePath, settings.artifact] ++ settings.downstream.toList

/-- The workspace of a command, with the files that it can touch. -/
def workspaceOf (demand : Demand) : IO Workspace := do
  let current := (Path.ofText (← IO.currentDir).toString.toList).names
  let files ← takeAlong ⟨current, []⟩ [] current
  let noDownload : Answer := .failure "no connection to the network".toList
  match demand with
  | .run i =>
    let files ← takePath files i.configPath
    match (Job.loadSettings i.configPath).run { files := files } with
    | (.ok settings, _) =>
      let files ← (touched (settings.override i.overrides)).foldlM takePath files
      return { files := files, answers := [noDownload] }
    | (.error _, _) => return { files := files }
  | _ => return { files := files }

/-- Writes back what was changed. -/
def store (before after : Files) : IO Unit := do
  for (place, entry) in after.entries.reverse do
    if before.find? place != some entry then
      match entry with
      | .directory => IO.FS.createDirAll (placeText place)
      | .file content => IO.FS.writeBinFile (placeText place) content
  for (place, _) in before.entries do
    if (after.find? place).isNone then IO.FS.removeFile (placeText place)

def levelName : Level → String
  | .debug => "DEBUG"
  | .info => "INFO"
  | .warning => "WARNING"
  | .error => "ERROR"
  | .critical => "CRITICAL"

def printRecord (r : Record) : IO Unit :=
  IO.eprintln (levelName r.level ++ ": " ++ String.ofList r.message)

/-- The message of an error that ends the program. -/
def errorText (e : RunError) : String :=
  match e, e.message? with
  | _, some message => String.ofList message
  | .extraction (.obstructed (.inexpressible failure _)), none => String.ofList failure.message
  | .extraction (.obstructed (.excess excess)), none => String.ofList excess.message
  | .extraction (.unreadable fragment _), none =>
    "the notation cannot be read: " ++ String.ofList fragment
  | .unreadableSettings _, none => "the settings cannot be read"
  | .unknownLevel, none => "the log level is unknown"
  | _, none => "a file cannot be read or written"

/-- The variables of the environment that supply options. -/
def environment : IO Environment := do
  let names := Command.extract.options.map CommandOption.environmentName
  let values ← names.mapM fun name => IO.getEnv (String.ofList name)
  return (names.zip values).filterMap fun (name, value) =>
    value.map fun value => (name, value.toList)

end SpecGrammar.Program

open SpecGrammar Program in
def main (arguments : List String) : IO UInt32 := do
  let arguments := arguments.map String.toList
  let environment ← environment
  let before ← workspaceOf (Demand.ofArguments arguments environment)
  let (result, after) := (runCommand arguments environment).run before
  store before.files after.files
  after.records.forM printRecord
  match result with
  | .ok ending =>
    ending.printed.forM fun line => IO.println (String.ofList line)
    return UInt32.ofNat ending.code
  | .error e =>
    IO.eprintln (errorText e)
    return 1
