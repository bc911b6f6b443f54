import SpecGrammar.Markup.Stream

/-!
# Elements

The tree of elements that a stream of tokens describes. Elements never end implicitly: an end tag ends
the innermost open element of its name and all within it, and is ignored if there is none. Elements
that cannot have content end at once.

Within an element a run of text made of plain white space only is kept as a single line feed, if it
holds one, or as a single space; elements that preserve white space keep it as it is. Text inside some
elements is not shown, which means that it is not part of the text of the elements around them.
-/

namespace SpecGrammar.Markup

/-- A node of the tree. -/
inductive Node
  | text (shown : Bool) (text : List Char)
  | element (name : List Char) (attributes : List Attribute) (children : List Node)
  deriving Repr

/-- Elements without content. -/
def voidElements : List (List Char) :=
  ["area", "base", "basefont", "bgsound", "br", "col", "command", "embed", "frame", "hr", "image",
    "img", "input", "isindex", "keygen", "link", "menuitem", "meta", "nextid", "param", "source",
    "spacer", "track", "wbr"].map String.toList

/-- Elements whose text is not shown as text of the elements around them. -/
def hiddenElements : List (List Char) :=
  ["script", "style", "template", "rt", "rp"].map String.toList

/-- Elements in which white space is kept. -/
def preservingElements : List (List Char) := ["pre", "textarea"].map String.toList

/-- An open element with the children it has so far. -/
structure Frame where
  name : List Char
  attributes : List Attribute
  children : List Node
  deriving Repr

/-- A tree under construction: the open elements, the innermost first, the complete nodes at the top,
the run of text being read, and the void elements that ended at once and whose end tags are still to be
passed over. -/
structure Builder where
  frames : List Frame := []
  top : List Node := []
  run : Option (List Char) := none
  passed : List (List Char) := []
  deriving Repr

namespace Builder

/-- Whether one of the open elements is among the given ones. -/
def within (b : Builder) (names : List (List Char)) : Bool :=
  b.frames.any fun frame => names.contains frame.name

/-- Puts a node at the end of the innermost open element. -/
def append (b : Builder) (node : Node) : Builder :=
  match b.frames with
  | [] => { b with top := b.top ++ [node] }
  | frame :: r => { b with frames := { frame with children := frame.children ++ [node] } :: r }

/-- A run of text as it is kept. -/
def kept (b : Builder) (run : List Char) : List Char :=
  if !b.within preservingElements && run.all Text.isAsciiBlank then
    if run.contains '\n' then ['\n'] else [' ']
  else run

/-- Ends the run of text. -/
def flush (b : Builder) : Builder :=
  match b.run with
  | none => b
  | some run =>
    { b with run := none }.append (.text (!b.within hiddenElements) (b.kept run))

/-- Adds to the run of text. -/
def addText (b : Builder) (text : List Char) : Builder :=
  { b with run := some (b.run.getD [] ++ text) }

/-- Ends the innermost open element. -/
def pop (b : Builder) : Builder :=
  match b.frames with
  | [] => b
  | frame :: r =>
    { b with frames := r }.append (.element frame.name frame.attributes frame.children)

/-- Ends the innermost open element of a name and all within it. -/
def close (b : Builder) (name : List Char) : Builder :=
  let b := b.flush
  match b.frames.findIdx? (·.name == name) with
  | none => b
  | some i => (i + 1).repeat pop b

/-- Opens an element. -/
def push (b : Builder) (name : List Char) (attributes : List Attribute) : Builder :=
  let b := b.flush
  { b with frames := ⟨name, attributes, []⟩ :: b.frames }

/-- An end tag. The end tag of a void element that ended at once is passed over, once. -/
def closeTag (b : Builder) (name : List Char) : Builder :=
  if b.passed.contains name then { b with passed := b.passed.erase name } else b.close name

/-- Adds what a token says. A tag that closes itself ends its own element at once, whichever end tags are
still to be passed over. -/
def add (b : Builder) : Token → Builder
  | .text text => b.addText text
  | .opening name attributes true => (b.push name attributes).close name
  | .opening name attributes false =>
    if voidElements.contains name then
      let b := (b.push name attributes).close name
      { b with passed := b.passed ++ [name] }
    else b.push name attributes
  | .closing name => b.closeTag name
  | .remark => b.flush
  | .verbatim text =>
    let b := b.flush
    b.append (.text true (b.kept text))

/-- The nodes at the top once every element has ended. -/
def finish (b : Builder) : List Node :=
  let b := b.flush
  (b.frames.length.repeat pop b).top

end Builder

/-- The nodes that a stream of tokens describes. -/
def nodes (tokens : List Token) : List Node := (tokens.foldl Builder.add {}).finish

/-! ### Text and attributes -/

mutual

/-- The text shown in a node. -/
def Node.shownText : Node → List Char
  | .text shown text => if shown then text else []
  | .element _ _ children => shownTexts children

def shownTexts : List Node → List Char
  | [] => []
  | node :: r => node.shownText ++ shownTexts r

end

/-- The value of an attribute; of several of one name the last counts. -/
def attribute? (attributes : List Attribute) (name : List Char) : Option (List Char) :=
  (attributes.reverse.find? (·.name == name)).map (·.value)

end SpecGrammar.Markup
