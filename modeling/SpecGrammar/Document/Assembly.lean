import SpecGrammar.Document.Normal
import SpecGrammar.Notation.Grammar
import SpecGrammar.Record

/-!
# Assembling a document

Pieces of grammar notation are added one after the other. Of each piece the productions with
alternatives are normalized first and then the lists of terminals, each kind in the order of the
piece. A production that cannot be normalized, because a symbol of it has no normalized form or a
terminal of it holds a number of too many digits, stops the piece; what was added before it stays.
-/

namespace SpecGrammar

open Notation

/-! ### The two kinds of production -/

/-- The terminals of a production that is a list of them. -/
def Notation.Production.terminals? (p : Production) : Option (List (List Char)) :=
  match p.body with
  | some (.oneOf terminals) => some terminals
  | _ => none

/-- The alternatives of a production that is not a list of terminals; one without a body has none. -/
def Notation.Production.alternatives (p : Production) : List Alternative :=
  match p.body with
  | some (.alternatives alternatives) => alternatives
  | _ => []

def Notation.Element.production? : Element → Option Production
  | .production p => some p
  | .directive _ => none

namespace Notation.Grammar

def productions (g : Grammar) : List Production := g.elements.filterMap Element.production?

/-- The productions with alternatives or without a body. -/
def sequences (g : Grammar) : List Production :=
  g.productions.filter fun p => p.terminals?.isNone

/-- The productions that are lists of terminals. -/
def oneOfs (g : Grammar) : List Production :=
  g.productions.filter fun p => p.terminals?.isSome

end Notation.Grammar

/-! ### Failures -/

/-- Why a document cannot be assembled, and where as far as it is known. -/
structure Failure where
  detail : List Char
  production : Option (List Char) := none
  source : Option (List Char) := none
  fragment : Option (List Char) := none
  deriving DecidableEq, Repr

namespace Failure

def message (f : Failure) : List Char :=
  match f.production with
  | none => f.detail
  | some production =>
    f.detail ++ " in production '".toList ++ production ++ "' (alternative: ".toList
      ++ (match f.source with | some source => Text.quoted source | none => "None".toList) ++ [')']

/-- The same failure in a known place. -/
def inContext (f : Failure) (production source fragment : List Char) : Failure :=
  { f with production := some production, source := some source, fragment := some fragment }

end Failure

/-- The report of an alternative that cannot be normalized. -/
def normalizationRecord (production source fragment : List Char) : Record :=
  ⟨.error, .assembly, "error while normalizing ".toList ++ production ++ " (alternative ".toList
    ++ Text.quoted source ++ ") in fragment:\n".toList ++ fragment⟩

/-- What stops a piece of notation; a symbol that has no normalized form is reported. -/
inductive Obstacle
  | inexpressible (failure : Failure) (report : Record)
  | excess (excess : Decimal.Excess)
  deriving DecidableEq, Repr

def Obstacle.records : Obstacle → List Record
  | .inexpressible _ report => [report]
  | .excess _ => []

def normalizeIn (fragment production : List Char) (a : Alternative) :
    Except Obstacle NodeSequence :=
  (normalizeAlternative a).mapError fun cause =>
    .inexpressible (Failure.inContext ⟨cause.message, none, none, none⟩ production a.source fragment)
      (normalizationRecord production a.source fragment)

def normalizeProduction (fragment : List Char) (p : Production) :
    Except Obstacle SequenceProduction :=
  return ⟨p.name, ← p.alternatives.mapM (normalizeIn fragment p.name)⟩

/-- A production with a list of terminals, normalized. -/
def normalizeOneOf (name : List Char) (terminals : List (List Char)) :
    Except Obstacle OneOfProduction :=
  ((normalizeTerminals terminals).mapError .excess).map fun texts => ⟨name, texts⟩

/-! ### The assembly -/

/-- The productions collected so far. -/
abbrev Assembly := Document

namespace Assembly

/-- What becomes of some productions, up to the first that meets an obstacle. -/
def collect {α : Type} : List (Except Obstacle α) → List α × Option Obstacle
  | [] => ([], none)
  | .error obstacle :: _ => ([], some obstacle)
  | .ok x :: r => (x :: (collect r).1, (collect r).2)

/-- The productions of a piece that are lists of terminals, normalized. -/
def normalizedLists (g : Grammar) : List (Except Obstacle OneOfProduction) :=
  g.oneOfs.filterMap fun p => p.terminals?.map (normalizeOneOf p.name)

/-- Adds a piece of notation. At an obstacle the productions before it have been added all the same. -/
def add (a : Assembly) (g : Grammar) : Assembly × Option Obstacle :=
  match collect (g.sequences.map (normalizeProduction g.text)) with
  | (added, some obstacle) => ({ a with sequences := a.sequences ++ added }, some obstacle)
  | (added, none) =>
    let (lists, obstacle) := collect (normalizedLists g)
    (⟨a.sequences ++ added, a.oneOfs ++ lists⟩, obstacle)

/-- Adds pieces of notation one after the other, up to the first that meets an obstacle. -/
def extend (a : Assembly) : List Grammar → Assembly × Option Obstacle
  | [] => (a, none)
  | g :: r =>
    match a.add g with
    | (a, some obstacle) => (a, some obstacle)
    | (a, none) => Assembly.extend a r

/-- The document assembled so far, with the report of its size. -/
def build (a : Assembly) : Document × Record :=
  (a, ⟨.info, .assembly, "Assembled ".toList ++ showNat a.sequences.length
    ++ " sequence productions and ".toList ++ showNat a.oneOfs.length
    ++ " one-of productions".toList⟩)

/-! ### Steps -/

/-- What is asked of an assembly. -/
inductive Step
  | add (piece : Grammar)
  | extend (pieces : List Grammar)
  | build
  deriving Repr

/-- What comes of a step. -/
inductive Outcome
  | done
  | stopped (obstacle : Obstacle)
  | built (document : Document)
  deriving DecidableEq, Repr

def Outcome.ofObstacle? : Option Obstacle → Outcome
  | none => .done
  | some obstacle => .stopped obstacle

def step (a : Assembly) : Step → Assembly × Outcome
  | .add piece => ((a.add piece).1, .ofObstacle? (a.add piece).2)
  | .extend pieces => ((a.extend pieces).1, .ofObstacle? (a.extend pieces).2)
  | .build => (a, .built a.build.1)

/-- The assembly after some steps. A step that an obstacle stops keeps no later one from being made. -/
def run (a : Assembly) (steps : List Step) : Assembly := steps.foldl (fun a s => (a.step s).1) a

end Assembly

end SpecGrammar
