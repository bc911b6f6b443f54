import SpecGrammar.Text.Blank

/-!
# Paths

A path is a list of names below the current directory or below a root. Writing it with doubled
slashes, a slash at the end or dots between its names makes no difference.
-/

namespace SpecGrammar

/-- Where a path starts. A root of exactly two slashes is one of its own. -/
inductive Origin
  | current | root | doubleRoot
  deriving DecidableEq, Repr

structure Path where
  origin : Origin
  names : List (List Char)
  deriving DecidableEq, Repr

namespace Path

/-- The origin that the slashes at the start of a text say. -/
def originOf (slashes : Nat) : Origin :=
  match slashes with
  | 0 => .current
  | 2 => .doubleRoot
  | _ => .root

def ofText (s : List Char) : Path :=
  ⟨originOf (s.takeWhile (· == '/')).length,
    (Text.splitWhen (· == '/') s).filter fun name => name != [] && name != ['.']⟩

def toText (p : Path) : List Char :=
  let names := Text.joinWith ['/'] p.names
  match p.origin with
  | .current => if p.names.isEmpty then ['.'] else names
  | .root => '/' :: names
  | .doubleRoot => '/' :: '/' :: names

/-- The path without its last name. A path of no names is its own parent. -/
def parent (p : Path) : Path := { p with names := p.names.dropLast }

/-- The rest of a path below another one, relative to it. -/
def below? (p directory : Path) : Option Path :=
  if p.origin == directory.origin && directory.names.isPrefixOf p.names then
    some ⟨.current, p.names.drop directory.names.length⟩
  else none

end Path

end SpecGrammar
