import SpecGrammar.Path
import SpecGrammar.Selection
import SpecGrammar.Yaml.Display

/-!
# Settings

What a run works with: where the specification comes from, where it is cached, where the artifact
goes, and what is selected. They are read from a YAML document in which every key may be left out;
a value of a wrong kind is refused. A number of seconds stays as it was given until all is read: a whole
number of any size, or a binary number.
-/

namespace SpecGrammar

open Yaml Decimal

/-! ### Seconds -/

inductive Seconds
  | whole (n : Int)
  | binary (x : Binary64)
  deriving DecidableEq, Repr

namespace Seconds

/-- The nearest binary number; nothing for a whole number beyond all finite ones. -/
def round? : Seconds → Option Binary64
  | .whole n => Binary64.ofInt? n
  | .binary x => some x

def write : Seconds → List Char
  | .whole n => (if n < 0 then ['-'] else []) ++ digits n.natAbs
  | .binary x => numberFormat.write x

end Seconds

/-! ### What is set -/

structure Settings where
  url : List Char := "https://github.com/tc39/ecma262/blob/es2021/spec.html?raw=true".toList
  cachePath : Path := .ofText "workdir/spec.html".toList
  timeout : Binary64 := .ofDecimal false 30 0
  artifact : Path := .ofText "workdir/grammar-notation.json".toList
  downstream : Option Path := none
  selection : Selection := {}
  deriving DecidableEq, Repr

/-- The sections of a settings document. -/
inductive Section
  | source | output | selection
  deriving DecidableEq, Repr

def Section.name : Section → List Char
  | .source => "source".toList
  | .output => "output".toList
  | .selection => "selection".toList

/-- Why a document holds no settings. A value of a wrong kind is told as messages show it. -/
inductive Misconfiguration
  | notAMapping
  | sectionNotAMapping (s : Section)
  | notAString (s : Section) (key shown : List Char)
  | notANumber (s : Section) (key shown : List Char)
  | notSections (s : Section) (key shown : List Char)
  | unwritable
  | numberTooGreat
  deriving DecidableEq, Repr

/-- The message for a value of a wrong kind; a number that is too great or cannot be written has none. -/
def Misconfiguration.message? : Misconfiguration → Option (List Char)
  | .notAMapping => some "Top-level YAML structure must be a mapping.".toList
  | .sectionNotAMapping s =>
    some ("Section '".toList ++ s.name ++ "' must be a mapping.".toList)
  | .notAString s key v => some (wrong s key " must be a string, got " v)
  | .notANumber s key v => some (wrong s key " must be a number, got " v)
  | .notSections s key v => some (wrong s key " must be a list of section ids, got " v)
  | .unwritable | .numberTooGreat => none
where
  wrong (s : Section) (key : List Char) (demand : String) (shown : List Char) : List Char :=
    s.name ++ '.' :: key ++ demand.toList ++ shown

/-! ### Single values -/

/-- Whether a collection is empty. -/
def isEmptyCollection : Collection → Bool
  | .list [] | .mapping [] | .orderedMapping [] | .set [] => true
  | _ => false

/-- Whether a value counts as nothing: null, false, zero and what is empty. -/
def isVoid (d : Data) (v : Value) : Bool :=
  match v with
  | .null | .bool false | .int 0 | .string [] | .bytes [] | .tuple [] => true
  | .float (.finite _ 0 _) => true
  | v => (d.collection? v).any isEmptyCollection

/-- The entries of a mapping. -/
def mappingEntries? (d : Data) (v : Value) : Option Entries :=
  match d.collection? v with
  | some (.mapping entries) | some (.orderedMapping entries) => some entries
  | _ => none

/-- The value under a key. -/
def valueAt? (entries : Entries) (key : List Char) : Option Value :=
  lookupKey (.string (Text.points key)) entries

/-- The entries of a section; it may be left out. -/
def readSection (d : Data) (document : Entries) (s : Section) : Except Misconfiguration Entries :=
  match valueAt? document s.name with
  | none => .ok []
  | some v =>
    match mappingEntries? d v with
    | some entries => .ok entries
    | none => if isVoid d v then .ok [] else .error (.sectionNotAMapping s)

/-- Refuses a value of a wrong kind. -/
def refuse (d : Data) (v : Value) (wrong : List Char → Misconfiguration) : Except Misconfiguration α :=
  .error ((d.shown? v).elim .unwritable wrong)

/-- Half of a surrogate pair that stands alone in a string is replaced. -/
def readString (d : Data) (s : Section) (entries : Entries) (key : List Char)
    (default : List Char) : Except Misconfiguration (List Char) :=
  match valueAt? entries key with
  | none => .ok default
  | some (.string t) => .ok (Text.joinPairs t)
  | some v => refuse d v (.notAString s key)

/-- A string that may also be null or left out. -/
def readOptional (d : Data) (s : Section) (entries : Entries) (key : List Char) :
    Except Misconfiguration (Option (List Char)) :=
  match valueAt? entries key with
  | none | some .null => .ok none
  | some (.string t) => .ok (some (Text.joinPairs t))
  | some v => refuse d v (.notAString s key)

/-- Section identifiers: the words of a string, or the items of a list that are not blank. -/
def readSections (d : Data) (s : Section) (entries : Entries) (key : List Char)
    (default : List (List Char)) : Except Misconfiguration (List (List Char)) :=
  match valueAt? entries key with
  | none | some .null => .ok default
  | some (.string t) => .ok (Text.words (Text.joinPairs t))
  | some v =>
    match d.collection? v with
    | some (.list items) =>
      match items.mapM d.bare? with
      | some texts => .ok ((texts.map Text.trim).filter (· ≠ []))
      | none => .error .unwritable
    | _ => refuse d v (.notSections s key)

/-- A number of seconds. -/
def readSeconds (d : Data) (s : Section) (entries : Entries) (key : List Char) (default : Binary64) :
    Except Misconfiguration Seconds :=
  match valueAt? entries key with
  | none => .ok (.binary default)
  | some (.int n) => .ok (.whole n)
  | some (.float x) => .ok (.binary x)
  | some (.undefined _) => .ok (.binary .undefined)
  | some v => refuse d v (.notANumber s key)

/-! ### The document -/

namespace Settings

/-- Takes over what the source section says. -/
def withSource (d : Data) (settings : Settings) (entries : Entries) : Except Misconfiguration Settings := do
  let seconds ← readSeconds d .source entries "timeout".toList settings.timeout
  let url ← readString d .source entries "url".toList settings.url
  let cachePath ← readString d .source entries "cache_path".toList settings.cachePath.toText
  let timeout ← (seconds.round?).elim (.error .numberTooGreat) .ok
  return { settings with url := url, cachePath := .ofText cachePath, timeout := timeout }

/-- Takes over what the output section says. An empty downstream path is none. -/
def withOutput (d : Data) (settings : Settings) (entries : Entries) :
    Except Misconfiguration Settings := do
  let downstream ← readOptional d .output entries "downstream".toList
  let artifact ← readString d .output entries "artifact".toList settings.artifact.toText
  let path : Option (List Char) → Option Path
    | none | some [] => none
    | some t => some (.ofText t)
  return { settings with artifact := .ofText artifact, downstream := path downstream }

/-- Takes over what the selection section says. -/
def withSelection (d : Data) (settings : Settings) (entries : Entries) :
    Except Misconfiguration Settings := do
  let s := settings.selection
  let startSection ← readString d .selection entries "start_section".toList s.startSection
  let excluded ←
    readSections d .selection entries "excluded_sections".toList s.excludedSections
  let web ← readSections d .selection entries "web_sections".toList s.webSections
  return { settings with selection := ⟨startSection, excluded, web⟩ }

/-- The settings in the entries of a document, section by section. -/
def ofEntries (d : Data) (document : Entries) : Except Misconfiguration Settings := do
  let settings ← withSource d {} (← readSection d document .source)
  let settings ← withOutput d settings (← readSection d document .output)
  withSelection d settings (← readSection d document .selection)

/-- The settings in a document. One that holds nothing leaves all settings at their defaults. -/
def ofData (d : Data) : Except Misconfiguration Settings :=
  match mappingEntries? d d.root with
  | some entries => ofEntries d entries
  | none => if isVoid d d.root then ofEntries d [] else .error .notAMapping

end Settings

/-! ### Overriding -/

/-- Settings given from outside the document; they win over those in it. -/
structure Overrides where
  url : Option (List Char) := none
  cachePath : Option Path := none
  artifact : Option Path := none
  downstream : Option Path := none
  deriving DecidableEq, Repr

/-- An empty address does not count as given. -/
def Settings.override (settings : Settings) (o : Overrides) : Settings :=
  { settings with
    url := (o.url.filter fun url => !url.isEmpty).getD settings.url
    cachePath := o.cachePath.getD settings.cachePath
    artifact := o.artifact.getD settings.artifact
    downstream := o.downstream.or settings.downstream }

end SpecGrammar
