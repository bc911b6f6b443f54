import SpecGrammar.Markup.Fragment
import SpecGrammar.Proofs.Reference.Escaped

/-!
# Well-nested documents

Documents as trees of elements, texts and grammar elements, how they are written as markup, and the
fragments that they hold. Every element but the grammar ones may hold any contents; a grammar element
holds one text.

* `Content`, `writeAll`: the contents of a document, and its text;
* `leavesAll`: its grammar elements with the attributes of the elements around them;
* `Leaf.fragment`: what is to be extracted of a grammar element;
* `ShowsAll contents html`: the markup shows the contents, with their texts written in any way.
-/

namespace SpecGrammar.Markup

open Reference (escape)

/-! ### Names and attributes -/

/-- Letters in lower case, digits and hyphens. -/
def isNameCharacter (c : Char) : Bool := c.isLower || c.isDigit || c == '-'

/-- A name that begins with a letter in lower case. -/
@[ext]
structure Name where
  letters : List Char
  starts : letters.head?.any Char.isLower = true
  regular : letters.all isNameCharacter = true
  deriving DecidableEq

/-- The name of an element that is written with both its tags and whose text is shown. -/
structure ElementName extends Name where
  ordinary : letters ∉ grammarElement :: (voidElements ++ hiddenElements)

namespace ElementName

variable (name : ElementName)

theorem ne_grammarElement : name.letters ≠ grammarElement :=
  fun h => name.ordinary (List.mem_cons.2 (.inl h))

theorem not_mem_voidElements : name.letters ∉ voidElements :=
  fun h => name.ordinary (List.mem_cons_of_mem _ (List.mem_append_left _ h))

theorem not_mem_hiddenElements : name.letters ∉ hiddenElements :=
  fun h => name.ordinary (List.mem_cons_of_mem _ (List.mem_append_right _ h))

/-- The text of raw elements is not shown. -/
theorem not_mem_rawElements : name.letters ∉ rawElements :=
  fun h => name.not_mem_hiddenElements
    ((by decide : ∀ x ∈ rawElements, x ∈ hiddenElements) name.letters h)

end ElementName

def grammarName : Name := ⟨grammarElement, by decide, by decide⟩

/-- The attributes of an element, which may have no value, without two of the same name. -/
structure Attributes where
  entries : List (Name × Option (List Char))
  distinct : (entries.map (·.1)).Nodup

namespace Attributes

/-- The value of an attribute; it is empty if none is written. -/
def value? (attributes : Attributes) (name : String) : Option (List Char) :=
  (attributes.entries.find? (·.1.letters == name.toList)).map fun entry => entry.2.getD []

/-- The identifier that the attributes give an element; an empty one is none. -/
def identifier? (attributes : Attributes) : Option (List Char) :=
  (attributes.value? "id").filter (· ≠ [])

end Attributes

/-! ### Contents -/

/-- A text that is not made of plain white space only. -/
structure VisibleText where
  text : List Char
  visible : text.all Text.isAsciiBlank = false

/-- A part of a document. -/
inductive Content
  | text (text : List Char)
  | grammar (attributes : Attributes) (text : VisibleText)
  | element (name : ElementName) (attributes : Attributes) (children : List Content)

/-- A grammar element in its place: the attributes of the elements around it, the innermost first. -/
structure Leaf where
  around : List Attributes
  attributes : Attributes
  text : List Char

mutual

/-- The grammar elements within a part, given the attributes of the elements around it. -/
def Content.leaves (around : List Attributes) : Content → List Leaf
  | .text _ => []
  | .grammar attributes text => [⟨around, attributes, text.text⟩]
  | .element _ attributes children => leavesAll (attributes :: around) children

def leavesAll (around : List Attributes) : List Content → List Leaf
  | [] => []
  | content :: r => content.leaves around ++ leavesAll around r

end

/-- What a grammar element holds and what the document says about it. -/
def Leaf.fragment (leaf : Leaf) (index : Nat) : Fragment :=
  { text := leaf.text
    sectionIds := leaf.around.map Attributes.identifier?
    grammarType := leaf.attributes.value? "type"
    isExample := (leaf.attributes.value? "example").isSome
    index := index }

/-! ### Writing -/

/-- An attribute after a space, with its value between double quotes if there is one. -/
def writeAttribute : Name × Option (List Char) → List Char
  | (name, none) => ' ' :: name.letters
  | (name, some value) => ' ' :: (name.letters ++ '=' :: '"' :: (escape value ++ ['"']))

def Attributes.write (attributes : Attributes) : List Char :=
  attributes.entries.flatMap writeAttribute

def writeStart (name : Name) (attributes : Attributes) : List Char :=
  '<' :: (name.letters ++ (attributes.write ++ ['>']))

def writeEnd (name : Name) : List Char := '<' :: '/' :: (name.letters ++ ['>'])

mutual

def Content.write : Content → List Char
  | .text text => escape text
  | .grammar attributes text =>
    writeStart grammarName attributes ++ (escape text.text ++ writeEnd grammarName)
  | .element name attributes children =>
    writeStart name.toName attributes ++ (writeAll children ++ writeEnd name.toName)

/-- The text of a document. -/
def writeAll : List Content → List Char
  | [] => []
  | content :: r => content.write ++ writeAll r

end

/-! ### Texts written in other ways -/

/-- The markup stands for the text: each character that begins no markup may be written as it is, and
each character as a reference if it has one. -/
inductive Escaped : List Char → List Char → Prop
  | nil : Escaped [] []
  | plain {c : Char} {text markup : List Char} (hc : isPlain c = true) (h : Escaped text markup) :
      Escaped (c :: text) (c :: markup)
  | reference {c : Char} {text markup : List Char} (h : Escaped text markup) :
      Escaped (c :: text) (Reference.escapeCharacter c ++ markup)

mutual

/-- The markup shows a part of a document. -/
inductive Shows : Content → List Char → Prop
  | text {text markup : List Char} (h : Escaped text markup) : Shows (.text text) markup
  | grammar {attributes : Attributes} {text : VisibleText} {markup : List Char}
      (h : Escaped text.text markup) :
      Shows (.grammar attributes text)
        (writeStart grammarName attributes ++ (markup ++ writeEnd grammarName))
  | element {name : ElementName} {attributes : Attributes} {children : List Content}
      {markup : List Char} (h : ShowsAll children markup) :
      Shows (.element name attributes children)
        (writeStart name.toName attributes ++ (markup ++ writeEnd name.toName))

/-- The markup shows a document. -/
inductive ShowsAll : List Content → List Char → Prop
  | nil : ShowsAll [] []
  | cons {content : Content} {r : List Content} {markup more : List Char} (h : Shows content markup)
      (hr : ShowsAll r more) : ShowsAll (content :: r) (markup ++ more)

end

theorem escaped_escape (text : List Char) : Escaped text (escape text) := by
  induction text with
  | nil => exact .nil
  | cons c text ih =>
    rw [Reference.escape_cons]
    exact .reference ih

mutual

theorem shows_write (content : Content) : Shows content content.write := by
  cases content with
  | text text =>
    rw [Content.write]
    exact .text (escaped_escape text)
  | grammar attributes text =>
    rw [Content.write]
    exact .grammar (escaped_escape text.text)
  | element name attributes children =>
    rw [Content.write]
    exact .element (showsAll_writeAll children)

/-- The text of a document shows it. -/
theorem showsAll_writeAll (contents : List Content) : ShowsAll contents (writeAll contents) := by
  cases contents with
  | nil =>
    rw [writeAll]
    exact .nil
  | cons content r =>
    rw [writeAll]
    exact .cons (shows_write content) (showsAll_writeAll r)

end

end SpecGrammar.Markup
