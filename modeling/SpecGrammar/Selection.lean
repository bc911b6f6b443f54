import SpecGrammar.Markup.Fragment
import SpecGrammar.Record

/-!
# Selecting fragments

Which fragments of a document are taken: definitions that are no examples, from the first one in the
start section on, outside the excluded sections. Rules are tried in order and the first that rejects a
fragment decides; the gate is tried only on fragments that the rules before it accept.
-/

namespace SpecGrammar

/-- What is selected: where selection starts, and the sections left out. -/
structure Selection where
  startSection : List Char := "sec-ecmascript-language-expressions".toList
  excludedSections : List (List Char) :=
    ["sec-regexp-regular-expression-objects", "sec-regular-expressions-patterns",
      "sec-function.prototype.tostring", "sec-uri-handling-functions"].map String.toList
  webSections : List (List Char) :=
    ["sec-additional-ecmascript-features-for-web-browsers"].map String.toList
  deriving DecidableEq, Repr

/-- The rules, in the order in which they are tried. -/
inductive Rule
  | definition | notExample | gate | excludedSections | webExtensions
  deriving DecidableEq, Repr

def Rule.all : List Rule := [.definition, .notExample, .gate, .excludedSections, .webExtensions]

/-! ### Single rules -/

namespace Fragment

def isDefinition (f : Fragment) : Bool := f.grammarType == some "definition".toList

/-- Whether the identifier at none of the depths is one of the sections; nothing if a depth counts too
far. -/
def outside? (f : Fragment) (sections : List (List Char)) : List Int → Option Bool
  | [] => some true
  | depth :: depths => do
    let id ← f.sectionId? depth
    if id.any sections.contains then return false else f.outside? sections depths

/-- Whether the identifier at none of the depths, counted from the innermost element, is one of the
sections. -/
def isOutside (f : Fragment) (sections : List (List Char)) (depths : List Nat) : Bool :=
  depths.all fun depth => !(f.sectionIds.getD depth none).any sections.contains

end Fragment

/-- Where the section that opens the gate stands: it is the second element outwards. -/
def startDepth : Nat := 1

/-- Where excluded sections stand: they are the innermost element or the one around it. -/
def excludedDepths : List Nat := [0, 1]

/-- Where sections of extensions stand. -/
def webDepths : List Nat := [2]

/-! ### The gate -/

/-- A gate is closed until a fragment of the start section comes by, and open from there on. -/
structure Gate where
  startSection : List Char
  depth : Int := startDepth
  isOpen : Bool := false
  deriving Repr

/-- The report of the fragment that opens the gate. -/
def gateRecord (index : Int) : Record :=
  ⟨.debug, .selection, "Selection gate opened at fragment ".toList ++ showInt index⟩

/-- Whether the fragment opens the gate; nothing if the depth counts too far. -/
def Gate.opens? (g : Gate) (f : Fragment) : Option Bool :=
  if g.isOpen then some false
  else (f.sectionId? g.depth).map fun id => id == some g.startSection

/-- The gate after a fragment has come by; it lets the fragment through if it is open after that. -/
def Gate.step? (g : Gate) (f : Fragment) : Option Gate :=
  (g.opens? f).map fun opens => { g with isOpen := g.isOpen || opens }

/-- The gate after each of some fragments has come by. There is nothing if the depth counts too far for
one of them. -/
def Gate.pass? (g : Gate) : List Fragment → Option (List Gate)
  | [] => some []
  | f :: r => do
    let g ← g.step? f
    return g :: (← g.pass? r)

/-! ### Selecting -/

namespace Selection

/-- Whether a fragment opens the gate at the usual depth. -/
def opens (s : Selection) (f : Fragment) : Bool :=
  f.sectionIds.getD startDepth none == some s.startSection

/-- The first rule that rejects a fragment, given whether the gate is open, and whether it is open
after that. -/
def judge (s : Selection) (isOpen : Bool) (f : Fragment) : Option Rule × Bool :=
  if !f.isDefinition then (some .definition, isOpen)
  else if f.isExample then (some .notExample, isOpen)
  else
    let isOpen := isOpen || s.opens f
    if !isOpen then (some .gate, isOpen)
    else if !f.isOutside s.excludedSections excludedDepths then (some .excludedSections, isOpen)
    else if !f.isOutside s.webSections webDepths then (some .webExtensions, isOpen)
    else (none, isOpen)

/-- The verdict on each fragment of a list, from left to right. -/
def judgeAll (s : Selection) : Bool → List Fragment → List (Fragment × Option Rule)
  | _, [] => []
  | isOpen, f :: r =>
    let (verdict, isOpen) := s.judge isOpen f
    (f, verdict) :: s.judgeAll isOpen r

/-- The fragment at which the gate opens. -/
def opening? (s : Selection) (fragments : List Fragment) : Option Fragment :=
  fragments.find? fun f => f.isDefinition && !f.isExample && s.opens f

/-- The fragments that no rule rejects. -/
def accepted (s : Selection) (fragments : List Fragment) : List Fragment :=
  ((s.judgeAll false fragments).filter fun judged => judged.2 == none).map (·.1)

/-- The fragments selected, with the reports of the opening of the gate and of their number. -/
def select (s : Selection) (fragments : List Fragment) : List Fragment × List Record :=
  let selected := s.accepted fragments
  (selected,
    ((s.opening? fragments).map fun f => gateRecord f.index).toList
      ++ [⟨.info, .selection, "Selected ".toList ++ showNat selected.length
        ++ " grammar fragments".toList⟩])

end Selection

end SpecGrammar
