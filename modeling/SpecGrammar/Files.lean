import SpecGrammar.Path
import SpecGrammar.Text.Line

/-!
# Files and directories

A tree of files and directories, the current directory in it, and what is done to them by path. A path
is followed name by name: every name but the last must lead to a directory, and two dots lead back.

* `decode?_encode`: the bytes of a text are read as that text;
* `find?_put_same`, `find?_put_of_ne`: storing at a place changes that place only;
* `find?_discard_same`, `find?_discard_of_ne`: the same for taking away.
-/

namespace SpecGrammar

/-- A place is the list of names that lead to it from the root. -/
abbrev Location := List (List Char)

inductive Entry
  | file (content : ByteArray)
  | directory

instance : BEq Entry where
  beq
    | .file a, .file b => a.data == b.data
    | .directory, .directory => true
    | _, _ => false

/-- What is stored at each place, and the current directory. The root is always a directory. -/
structure Files where
  current : Location
  entries : List (Location × Entry)

/-- Why something cannot be done to a file. -/
inductive FileError
  | notFound
  | notADirectory
  | isADirectory
  | alreadyExists
  | sameFile
  | nameTooLong
  | nullCharacter
  | undecodable
  deriving DecidableEq, Repr

namespace Files

/-! ### Texts as bytes -/

def encode (text : List Char) : ByteArray := (String.ofList text).toUTF8

def decode? (content : ByteArray) : Option (List Char) := content.utf8Decode?.map Array.toList

theorem decode?_encode (text : List Char) : decode? (encode text) = some text := by
  have h : encode text = text.utf8Encode := by simp [encode]
  simp [decode?, h, List.utf8Decode?_utf8Encode]

/-! ### Places -/

def find? (files : Files) (place : Location) : Option Entry :=
  if place.isEmpty then some .directory else files.entries.lookup place

/-- Takes away what is stored at a place. -/
def discard (files : Files) (place : Location) : Files :=
  { files with entries := files.entries.filter fun entry => entry.1 != place }

def put (files : Files) (place : Location) (entry : Entry) : Files :=
  { files with entries := (place, entry) :: (files.discard place).entries }

/-- The most bytes that a name may have. -/
def longestName : Nat := 255

/-- The most bytes that a path may have as it is written. -/
def longestPath : Nat := 4095

/-- Follows names from a place. -/
def follow (files : Files) : Location → List (List Char) → Except FileError Location
  | place, [] => .ok place
  | place, name :: names =>
    match files.find? place with
    | none => .error .notFound
    | some (.file _) => .error .notADirectory
    | some .directory =>
      if name == ['.', '.'] then files.follow place.dropLast names
      else if longestName < (encode name).size then .error .nameTooLong
      else files.follow (place ++ [name]) names

/-- The place a path leads to; nothing need be stored there. -/
def locate (files : Files) (p : Path) : Except FileError Location :=
  if p.names.any (·.contains '\x00') then .error .nullCharacter
  else if longestPath < (encode p.toText).size then .error .nameTooLong
  else files.follow (if p.origin == .current then files.current else []) p.names

/-- What is stored where a path leads. -/
def entryAt (files : Files) (p : Path) : Except FileError Entry := do
  match files.find? (← files.locate p) with
  | some entry => .ok entry
  | none => .error .notFound

/-- Whether something is stored where a path leads. A path that leads nowhere is no error here. -/
def exists? (files : Files) (p : Path) : Except FileError Bool :=
  match files.entryAt p with
  | .ok _ => .ok true
  | .error .nameTooLong => .error .nameTooLong
  | .error _ => .ok false

def isDirectory (files : Files) (p : Path) : Bool :=
  match files.entryAt p with
  | .ok entry => entry == .directory
  | .error _ => false

/-! ### Reading and writing -/

def read (files : Files) (p : Path) : Except FileError ByteArray := do
  match ← files.entryAt p with
  | .file content => .ok content
  | .directory => .error .isADirectory

/-- The text of a file, with every line ended by a line feed. -/
def readText (files : Files) (p : Path) : Except FileError (List Char) := do
  match decode? (← files.read p) with
  | some text => .ok (Text.unifyNewlines text)
  | none => .error .undecodable

/-- Makes a file hold some content; the directory it stands in must be there. -/
def write (files : Files) (p : Path) (content : ByteArray) : Except FileError Files := do
  let place ← files.locate p
  if files.find? place == some .directory then .error .isADirectory
  else .ok (files.put place (.file content))

def writeText (files : Files) (p : Path) (text : List Char) : Except FileError Files :=
  files.write p (encode text)

/-- Removes a file. -/
def remove (files : Files) (p : Path) : Except FileError Files := do
  let place ← files.locate p
  match files.find? place with
  | some .directory => .error .isADirectory
  | some (.file _) => .ok (files.discard place)
  | none => .error .notFound

/-- Copies a file. A file cannot be copied to itself. -/
def copy (files : Files) (source destination : Path) : Except FileError Files := do
  let same : Bool :=
    match files.locate source, files.locate destination with
    | .ok a, .ok b => a == b && (files.find? a).isSome
    | _, _ => false
  if same then .error .sameFile
  else files.write destination (← files.read source)

/-! ### Directories -/

/-- Makes a directory in one that is there. -/
def makeOne (files : Files) (p : Path) : Except FileError Files := do
  let place ← files.locate p
  if (files.find? place).isSome then .error .alreadyExists
  else .ok (files.put place .directory)

/-- Makes a directory unless it is there. -/
def makeSure (files : Files) (p : Path) : Except FileError Files :=
  match files.makeOne p with
  | .error .notFound => .error .notFound
  | .error e => if files.isDirectory p then .ok files else .error e
  | .ok files => .ok files

/-- Makes a directory and those it stands in, unless they are there, with at most `depth` of them
missing around it. What was made before an error stays. -/
def makeUpTo : Nat → Files → Path → Except FileError Unit × Files
  | depth, files, p =>
    match files.makeSure p with
    | .ok files => (.ok (), files)
    | .error .notFound =>
      match depth with
      | 0 => (.error .notFound, files)
      | depth + 1 =>
        match makeUpTo depth files p.parent with
        | (.error e, files) => (.error e, files)
        | (.ok (), files) =>
          match files.makeSure p with
          | .ok files => (.ok (), files)
          | .error e => (.error e, files)
    | .error e => (.error e, files)

/-- Makes a directory and those it stands in, unless they are there. -/
def makeDirectories (files : Files) (p : Path) : Except FileError Unit × Files :=
  makeUpTo p.names.length files p

/-! ### Small facts -/

theorem lookup_filter_ne {entries : List (Location × Entry)} {place other : Location}
    (h : other ≠ place) :
    (entries.filter fun entry => entry.1 != place).lookup other = entries.lookup other := by
  induction entries with
  | nil => rfl
  | cons entry entries ih =>
    obtain ⟨key, value⟩ := entry
    by_cases hk : key = place
    · subst hk
      simp [List.lookup_cons, ih, beq_false_of_ne h]
    · simp [List.lookup_cons, hk, ih]

theorem lookup_filter_same (entries : List (Location × Entry)) (place : Location) :
    (entries.filter fun entry => entry.1 != place).lookup place = none := by
  induction entries with
  | nil => rfl
  | cons entry entries ih =>
    obtain ⟨key, value⟩ := entry
    by_cases hk : key = place
    · simp [hk, ih]
    · simp [List.lookup_cons, hk, ih, beq_false_of_ne (Ne.symm hk)]

theorem find?_discard_of_ne {files : Files} {place other : Location} (h : other ≠ place) :
    (files.discard place).find? other = files.find? other := by
  simp [find?, discard, lookup_filter_ne h]

theorem find?_discard_same {files : Files} {place : Location} (h : place ≠ []) :
    (files.discard place).find? place = none := by
  simp [find?, discard, h, lookup_filter_same]

theorem find?_put_same {files : Files} {place : Location} {entry : Entry} (h : place ≠ []) :
    (files.put place entry).find? place = some entry := by
  simp [find?, put, h]

theorem find?_put_of_ne {files : Files} {place other : Location} {entry : Entry} (h : other ≠ place) :
    (files.put place entry).find? other = files.find? other := by
  simp [find?, put, discard, List.lookup_cons, beq_false_of_ne h, lookup_filter_ne h]

end Files

end SpecGrammar
