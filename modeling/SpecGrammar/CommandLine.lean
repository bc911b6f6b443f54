import SpecGrammar.Decimal.Numeral
import SpecGrammar.Run

/-!
# The command line

Two commands: `extract` runs the extraction, `fetch` only fills the cache. Their options are given as
arguments or, where the arguments leave them out, by variables of the environment; they win over the
settings document. Underscores in the name of an option count as hyphens.
-/

namespace SpecGrammar

inductive Command
  | extract | fetch
  deriving DecidableEq, Repr

inductive CommandOption
  | config | sourceUrl | cachePath | output | downstream | refresh | logLevel
  deriving DecidableEq, Repr

namespace CommandOption

def name : CommandOption → List Char
  | .config => "config".toList
  | .sourceUrl => "source-url".toList
  | .cachePath => "cache-path".toList
  | .output => "output".toList
  | .downstream => "downstream".toList
  | .refresh => "refresh".toList
  | .logLevel => "log-level".toList

/-- The variable of the environment that supplies an option. -/
def environmentName (o : CommandOption) : List Char :=
  "GRAMMAR_NOTATION_".toList ++ o.name.map fun c => if c == '-' then '_' else c.toUpper

end CommandOption

namespace Command

def ofName? (name : List Char) : Option Command :=
  match String.ofList name with
  | "extract" => some .extract
  | "fetch" => some .fetch
  | _ => none

/-- The options of a command. -/
def options : Command → List CommandOption
  | .extract => [.config, .sourceUrl, .cachePath, .output, .downstream, .refresh, .logLevel]
  | .fetch => [.config, .sourceUrl, .cachePath, .refresh, .logLevel]

def option? (c : Command) (name : List Char) : Option CommandOption :=
  c.options.find? fun o => o.name == name

end Command

/-! ### Arguments -/

/-- The truth value of a text that sets a flag. -/
def flagValue? (s : List Char) : Option Bool :=
  let s := s.map Char.toLower
  if ["true", "t", "yes", "y", "1"].any (·.toList == s) then some true
  else if ["false", "f", "no", "n", "0"].any (·.toList == s) then some false
  else none

/-- A command with the texts given for its options; that of the flag is a truth value. -/
structure Invocation where
  command : Command
  values : List (CommandOption × List Char)
  refresh : Bool

/-- What the arguments ask for. -/
inductive Demand
  | help
  | misuse
  | run (i : Invocation)

/-- Whether a text is a whole number with the mark of its base. -/
def isMarkedWhole (s : List Char) : Bool :=
  let magnitude := Decimal.dropSign (Decimal.plainForm s)
  [2, 8, 16].any fun base =>
    Decimal.dropMark base magnitude != magnitude && (Decimal.whole? base s).isSome

/-- Whether an argument looks like an option and not like a value. Negative numbers of all kinds are
values, but a single letter after the hyphen makes an option. -/
def looksLikeOption (s : List Char) : Bool :=
  s.head? == some '-'
    && (s == ['-', 'j'] || s == ['-', 'J'] || !(Decimal.isComplex s || isMarkedWhole s))

/-- The name in an option argument, and the value after its equals sign; nothing if the argument is no
option. -/
def splitArgument? (s : List Char) : Option (List Char × Option (List Char)) :=
  let written := s.takeWhile (· != '=')
  match written, written.map fun c => if c == '_' then '-' else c with
  | '-' :: _, '-' :: '-' :: name =>
    some (name, if s.contains '=' then some (s.drop (written.length + 1)) else none)
  | _, _ => none

/-- The options and flags in the arguments after a command; nothing if they are misused. -/
def readArguments (c : Command) :
    List (List Char) → Option (List (CommandOption × List Char) × List Bool)
  | [] => some ([], [])
  | argument :: rest => do
    let (name, value) ← splitArgument? argument
    if name == "refresh".toList || name == "no-refresh".toList then do
      let given ← flagValue? (value.getD "true".toList)
      let (values, flags) ← readArguments c rest
      return (values, (given == (name == "refresh".toList)) :: flags)
    else do
      let o ← c.option? name
      match value, rest with
      | some value, rest =>
        let (values, flags) ← readArguments c rest
        return ((o, value) :: values, flags)
      | none, value :: rest =>
        if looksLikeOption value then none
        else
          let (values, flags) ← readArguments c rest
          return ((o, value) :: values, flags)
      | none, [] => none

/-- The mark behind which no argument is an option. -/
def endOfOptions : List Char := ['-', '-']

/-- The arguments that may be options; nothing if others follow the end of the options. -/
def optionArguments? (arguments : List (List Char)) : Option (List (List Char)) :=
  let before := arguments.takeWhile (· != endOfOptions)
  if arguments.length ≤ before.length + 1 then some before else none

def hasRepeats : List CommandOption → Bool
  | [] => false
  | o :: r => r.contains o || hasRepeats r

/-- The environment: names and values of its variables. -/
abbrev Environment := List (List Char × List Char)

/-- The texts of the options that are given, by arguments or else by the environment. -/
def valuesFor (c : Command) (values : List (CommandOption × List Char)) (environment : Environment) :
    List (CommandOption × List Char) :=
  values ++ c.options.filterMap fun o =>
    if o == .refresh || (values.lookup o).isSome then none
    else (environment.lookup o.environmentName).map fun value => (o, value)

def helpArguments : List (List Char) := ["--help", "-h", "--version"].map String.toList

/-- What arguments and environment ask for. No option may be given twice. -/
def Demand.ofArguments (arguments : List (List Char)) (environment : Environment) : Demand :=
  if arguments.isEmpty || arguments.any helpArguments.contains then .help
  else
    match arguments with
    | [] => .help
    | first :: rest =>
      match Command.ofName? first with
      | none => .misuse
      | some c =>
        match optionArguments? rest >>= readArguments c with
        | none => .misuse
        | some (values, flags) =>
          let refresh :=
            match flags with
            | [] => flagValue? ((environment.lookup CommandOption.refresh.environmentName).getD
                "false".toList)
            | [flag] => some flag
            | _ => none
          match hasRepeats (values.map (·.1)), refresh with
          | false, some refresh => .run ⟨c, valuesFor c values environment, refresh⟩
          | _, _ => .misuse

/-! ### Levels -/

/-- The capital of a letter as far as the names of levels need it. Two letters beyond ASCII have
capitals in ASCII. -/
def capital (c : Char) : Char :=
  if c == 'ı' then 'I' else if c == 'ſ' then 'S' else c.toUpper

/-- The least rank shown at a level, by its name in any case. -/
def threshold? (name : List Char) : Option Nat :=
  match String.ofList (name.map capital) with
  | "CRITICAL" | "FATAL" => some Level.critical.rank
  | "ERROR" => some Level.error.rank
  | "WARNING" | "WARN" => some Level.warning.rank
  | "INFO" => some Level.info.rank
  | "DEBUG" => some Level.debug.rank
  | "NOTSET" => some 0
  | _ => none

/-- A job of whose records only those of some rank are kept. -/
def shownFrom (rank : Nat) (job : Job α) : Job α := fun w =>
  let (result, after) := job.run { w with records := [] }
  (result,
    { after with records := w.records ++ after.records.filter fun r => rank ≤ r.level.rank })

/-! ### Running -/

namespace Invocation

def path? (i : Invocation) (o : CommandOption) : Option Path := (i.values.lookup o).map Path.ofText

def configPath (i : Invocation) : Path :=
  (i.path? .config).getD (.ofText "config/grammar.yaml".toList)

def overrides (i : Invocation) : Overrides :=
  ⟨i.values.lookup .sourceUrl, i.path? .cachePath, i.path? .output, i.path? .downstream⟩

/-- A path as it is shown: relative to the current directory if it lies in it. -/
def shown (w : Workspace) (p : Path) : List Char :=
  ((p.below? ⟨.root, w.files.current⟩).getD p).toText

/-- Whether an error is one of the extraction itself, which is reported before it ends the program. -/
def isReported : RunError → Bool
  | .fetch _ _ | .extraction (.unreadable _ _) | .extraction (.obstructed (.inexpressible _ _)) =>
    true
  | _ => false

/-- Runs the extraction, and gives the lines to print. -/
def extract (i : Invocation) (settings : Settings) : Job (List (List Char)) := do
  let paths ←
    tryCatch (settings.run .opened i.refresh) fun e => do
      if isReported e then
        Job.report ⟨.error, .commandLine, "grammar extraction failed".toList⟩
      throw e
  let w ← get
  return paths.map fun p => "wrote ".toList ++ shown w p

/-- Fills the cache, and gives the line to print. -/
def fetch (i : Invocation) (settings : Settings) : Job (List (List Char)) := do
  let _ ← (settings.fetcher .opened).fetch i.refresh
  return ["cached ".toList ++ shown (← get) settings.cachePath]

/-- Runs a command, and gives the lines to print. -/
def run (i : Invocation) : Job (List (List Char)) :=
  match threshold? ((i.values.lookup .logLevel).getD "WARNING".toList) with
  | none => throw .unknownLevel
  | some rank =>
    shownFrom rank do
      let settings ← Job.loadSettings i.configPath
      let settings := settings.override i.overrides
      match i.command with
      | .extract => i.extract settings
      | .fetch => i.fetch settings

end Invocation

/-- How a command ends: its exit code and the lines it prints. -/
structure Ending where
  code : Nat
  printed : List (List Char) := []

/-- Does what arguments and environment ask for. -/
def runCommand (arguments : List (List Char)) (environment : Environment) : Job Ending :=
  match Demand.ofArguments arguments environment with
  | .help => return ⟨0, []⟩
  | .misuse => return ⟨2, []⟩
  | .run i => do return ⟨0, ← i.run⟩

end SpecGrammar
