import SpecGrammar.Reference.Decode
import SpecGrammar.Text.Blank
import SpecGrammar.Text.Case

/-!
# Tags and other markup

The pieces of markup at the start of a text: start tags with their attributes, end tags, comments,
instructions, declarations and marked sections. Markup is read tolerantly. A piece that the text does
not complete is not markup; what becomes of it is decided where pieces are put together. Character
references in the values of attributes are decoded, which fails if a number has too many digits.

* `search_length`, `value?_length`: what is left is never longer than the text.
-/

namespace SpecGrammar.Markup

open Text (isBlank trimStart)

structure Attribute where
  name : List Char
  value : List Char
  deriving DecidableEq, Repr

/-- What a text of markup gives, in order. -/
inductive Token
  | text (text : List Char)
  /-- A start tag; `closed` if it ends its element at once. -/
  | opening (name : List Char) (attributes : List Attribute) (closed : Bool)
  | closing (name : List Char)
  /-- A comment, an instruction or a declaration. It gives no text but ends a run of text. -/
  | remark
  /-- The content of a section of character data. -/
  | verbatim (text : List Char)
  deriving DecidableEq, Repr

/-! ### Searching -/

/-- The text before the first place where a reader succeeds, and what the reader leaves there. -/
def search (reader : List Char → Option (List Char)) : List Char → Option (List Char × List Char)
  | [] => (reader []).map fun rest => ([], rest)
  | c :: r =>
    match reader (c :: r) with
    | some rest => some ([], rest)
    | none => (search reader r).map fun found => (c :: found.1, found.2)

/-- A reader leaves no more than the text it is given. -/
def Shortens (reader : List Char → Option (List Char)) : Prop :=
  ∀ s rest, reader s = some rest → rest.length ≤ s.length

theorem search_length {reader : List Char → Option (List Char)} (h : Shortens reader) :
    ∀ {s before rest}, search reader s = some (before, rest) → rest.length ≤ s.length
  | [], before, rest, found => by
    simp only [search, Option.map_eq_some_iff, Prod.mk.injEq] at found
    obtain ⟨_, found, _, rfl⟩ := found
    exact h _ _ found
  | c :: r, before, rest, found => by
    unfold search at found
    split at found
    · next left taken =>
      cases found
      exact h _ _ taken
    · simp only [Option.map_eq_some_iff, Prod.mk.injEq] at found
      obtain ⟨⟨_, _⟩, found, _, rfl⟩ := found
      have := search_length h found
      simp only [List.length_cons]
      omega

/-- Reads a fixed character. -/
def char? (x : Char) : List Char → Option (List Char)
  | [] => none
  | c :: r => if c == x then some r else none

/-- Reads white space and then a fixed character. -/
def spacedChar? (x : Char) (s : List Char) : Option (List Char) := char? x (trimStart s)

theorem char?_shortens (x : Char) : Shortens (char? x) := by
  intro s rest h
  cases s with
  | nil => simp [char?] at h
  | cons c r =>
    simp only [char?] at h
    split at h
    · cases h
      simp
    · simp at h

theorem trimStart_length (s : List Char) : (trimStart s).length ≤ s.length :=
  (List.dropWhile_suffix _).length_le

/-- One reader after another. -/
def andThen (first second : List Char → Option (List Char)) (s : List Char) : Option (List Char) :=
  (first s).bind second

/-- The end of a tag, an instruction or a declaration. -/
def tagEnd? : List Char → Option (List Char) := char? '>'

/-- The end of a comment: two hyphens and a closing bracket, maybe with white space between. -/
def commentEnd? : List Char → Option (List Char) :=
  andThen (char? '-') (andThen (char? '-') (spacedChar? '>'))

/-- The end of a marked section: two closing square brackets and a closing bracket. -/
def sectionEnd? : List Char → Option (List Char) :=
  andThen (char? ']') (andThen (spacedChar? ']') (spacedChar? '>'))

/-- The end of a conditional section: one closing square bracket and a closing bracket. -/
def conditionEnd? : List Char → Option (List Char) :=
  andThen (char? ']') (spacedChar? '>')

/-! ### Attributes -/

/-- Characters of a tag's name after its first letter. -/
def isTagCharacter (c : Char) : Bool :=
  !(c == '\t' || c == '\n' || c == '\r' || c == '\x0c' || c == ' ' || c == '/' || c == '>'
    || c == '\x00')

def isQuote (c : Char) : Bool := c == '\'' || c == '"'

/-- Skips white space and slashes, but not the slash that closes a tag. -/
def skipSeparators : List Char → List Char
  | [] => []
  | c :: r =>
    if isBlank c then skipSeparators r
    else if c == '/' && r.head? != some '>' then skipSeparators r
    else c :: r

/-- A quoted value and what follows it; nothing without an opening quote or without its partner. -/
def quotedValue? : List Char → Option (List Char × List Char)
  | [] => none
  | q :: r => if isQuote q then search (char? q) r else none

def isBareCharacter (c : Char) : Bool := !(c == '>' || isBlank c)

/-- The value after an attribute's name, and what follows it. A value that opens with a quote without
a partner is no value: it is empty if white space precedes the quote, begins with the last of several
equals signs, or else is missing. -/
def value? (s : List Char) : Option (List Char × List Char) :=
  match trimStart s with
  | '=' :: r =>
    let equals := r.takeWhile (· == '=')
    let after := r.dropWhile (· == '=')
    let text := trimStart after
    match quotedValue? text with
    | some found => some found
    | none =>
      if text.head?.any isQuote then
        if text.length < after.length then some ([], text)
        else if equals ≠ [] then
          some ('=' :: text.takeWhile isBareCharacter, text.dropWhile isBareCharacter)
        else none
      else some (text.takeWhile isBareCharacter, text.dropWhile isBareCharacter)
  | _ => none

/-- Characters of an attribute's name after the first. -/
def isAttributeCharacter (c : Char) : Bool := !(isBlank c || c == '/' || c == '=' || c == '>')

theorem skipSeparators_length (s : List Char) : (skipSeparators s).length ≤ s.length := by
  induction s with
  | nil => simp [skipSeparators]
  | cons c r ih =>
    unfold skipSeparators
    split
    · simp only [List.length_cons]
      omega
    · split <;> simp only [List.length_cons] <;> omega

theorem quotedValue?_length {s v rest : List Char} (h : quotedValue? s = some (v, rest)) :
    rest.length ≤ s.length := by
  cases s with
  | nil => simp [quotedValue?] at h
  | cons q r =>
    simp only [quotedValue?] at h
    split at h
    · have := search_length (char?_shortens q) h
      simp only [List.length_cons]
      omega
    · simp at h

theorem value?_length {s v rest : List Char} (h : value? s = some (v, rest)) :
    rest.length ≤ s.length := by
  unfold value? at h
  have hs := trimStart_length s
  split at h
  · next r hr =>
    have hd : ∀ (p : Char → Bool) (t : List Char), (t.dropWhile p).length ≤ t.length :=
      fun p t => (List.dropWhile_suffix p).length_le
    have h1 := hd (· == '=') r
    have h2 := trimStart_length (r.dropWhile (· == '='))
    have h3 := hd isBareCharacter (trimStart (r.dropWhile (· == '=')))
    rw [hr, List.length_cons] at hs
    dsimp only at h
    split at h
    · next found hq =>
      cases h
      have := quotedValue?_length hq
      omega
    · split at h
      · split at h
        · cases h
          omega
        · split at h
          · cases h
            omega
          · cases h
      · cases h
        omega
  · cases h

/-- The attributes at the start of a text as they are written, and what follows them. An attribute's
name begins only after a separator or a quote, which `ready` tells of the character before the text. -/
def attributesFrom (ready : Bool) (s : List Char) : List Attribute × List Char :=
  match s with
  | [] => ([], [])
  | c :: r =>
    if ready && !(isBlank c || c == '/' || c == '>') then
      let after := r.dropWhile isAttributeCharacter
      let name := c :: r.takeWhile isAttributeCharacter
      match _hv : value? after with
      | some (value, left) =>
        let found := attributesFrom true (skipSeparators left)
        (⟨Text.lowerText name, value⟩ :: found.1, found.2)
      | none =>
        let rest := skipSeparators after
        let found := attributesFrom (rest.length < after.length || name.getLast?.any isQuote) rest
        (⟨Text.lowerText name, []⟩ :: found.1, found.2)
    else ([], c :: r)
termination_by s.length
decreasing_by
  · have := value?_length _hv
    have := skipSeparators_length left
    have : after.length ≤ r.length := (List.dropWhile_suffix _).length_le
    simp only [List.length_cons]
    omega
  · have := skipSeparators_length (r.dropWhile isAttributeCharacter)
    have : (r.dropWhile isAttributeCharacter).length ≤ r.length :=
      (List.dropWhile_suffix _).length_le
    simp only [List.length_cons]
    omega

/-- Decodes the value of an attribute. -/
def Attribute.decode (a : Attribute) : Except Decimal.Excess Attribute :=
  return { a with value := ← Reference.tryDecode a.value }

/-! ### Tags -/

/-- Whether an attribute's name may follow a character at once. -/
def opensAttribute (c : Char) : Bool := isQuote c || isBlank c

/-- What stands where a start tag should. -/
inductive StartTag
  | tag (name : List Char) (attributes : List Attribute) (closed : Bool) (rest : List Char)
  /-- The tag breaks off at a character it cannot hold: what was read is text. -/
  | broken (text rest : List Char)
  /-- The text ends before the tag does, or the tag breaks off within an attribute. -/
  | incomplete
  /-- The value of an attribute cannot be decoded. -/
  | undecodable (excess : Decimal.Excess)

/-- Reads a start tag after its opening bracket, at the first letter of its name. -/
def startTag (s : List Char) : StartTag :=
  let name := s.takeWhile isTagCharacter
  let after := s.dropWhile isTagCharacter
  let written :=
    attributesFrom ((skipSeparators after).length < after.length || name.getLast?.any opensAttribute)
      (skipSeparators after)
  match written.2, written.1.mapM Attribute.decode with
  | [], _ => .incomplete
  | '>' :: rest, .ok attributes => .tag (Text.lowerText name) attributes false rest
  | '/' :: '>' :: rest, .ok attributes => .tag (Text.lowerText name) attributes true rest
  | c :: rest, decoded =>
    if c.isAlpha || c == '=' then .incomplete
    else
      match decoded with
      | .error excess => .undecodable excess
      | .ok _ => .broken ('<' :: s.take (s.length - (rest.length + 1))) (c :: rest)

/-- Characters of the name in a plain end tag. -/
def isEndTagCharacter (c : Char) : Bool :=
  c.isAlphanum || c == '-' || c == '.' || c == ':' || c == '_'

/-- A plain end tag after its opening bracket and slash: white space, a name, white space, and the
closing bracket. -/
def plainEndTag? (s : List Char) : Option (List Char × List Char) :=
  let s := trimStart s
  if s.head?.any Char.isAlpha then
    (spacedChar? '>' (s.dropWhile isEndTagCharacter)).map fun rest =>
      (Text.lowerText (s.takeWhile isEndTagCharacter), rest)
  else none

/-- Reads an end tag after its opening bracket and slash. Anything between the name and the closing
bracket is ignored, and without a name there is a remark or, if nothing stands there, nothing. -/
def endTag? (s : List Char) : Option (List Token × List Char) :=
  match plainEndTag? s with
  | some (name, rest) => some ([.closing name], rest)
  | none =>
    (search tagEnd? s).map fun (inner, rest) =>
      if s.head?.any Char.isAlpha then
        ([.closing (Text.lowerText (inner.takeWhile isTagCharacter))], rest)
      else (if inner = [] then [] else [.remark], rest)

/-! ### Raw elements -/

/-- Elements whose content is no markup up to their own end tag. -/
def rawElements : List (List Char) := ["script", "style"].map String.toList

/-- The end tag of a raw element. -/
def rawEnd? (name s : List Char) : Option (List Char) :=
  match s with
  | '<' :: '/' :: r =>
    (plainEndTag? r).bind fun (found, rest) => if found == name then some rest else none
  | _ => none

/-! ### Declarations -/

/-- What stands where a declaration should. -/
inductive Declaration
  | read (token : Token) (rest : List Char)
  | incomplete
  | refused

def isSectionCharacter (c : Char) : Bool :=
  c.isAlphanum || c == '-' || c == '_' || c == '.'

/-- The kinds of marked section. -/
def sectionKinds : List (List Char) :=
  ["temp", "cdata", "ignore", "include", "rcdata"].map String.toList

/-- The kinds of conditional section. -/
def conditionKinds : List (List Char) := ["if", "else", "endif"].map String.toList

def characterDataMark : List Char := "cdata[".toList

/-- The token of a section with a given content: character data give their text. -/
def sectionToken (content : List Char) : Token :=
  if characterDataMark.isPrefixOf (Text.lowerText content) then
    .verbatim (content.drop characterDataMark.length)
  else .remark

/-- Reads a section after its opening `<![`. A section of an unknown kind is refused. -/
def markedSection (s : List Char) : Declaration :=
  if s = [] then .incomplete
  else if !s.head?.any Char.isAlpha then .refused
  else if trimStart (s.dropWhile isSectionCharacter) = [] then .incomplete
  else
    let kind := Text.lowerText (s.takeWhile isSectionCharacter)
    let close? :=
      if sectionKinds.contains kind then some sectionEnd?
      else if conditionKinds.contains kind then some conditionEnd?
      else none
    match close? with
    | none => .refused
    | some close =>
      match search close s with
      | none => .incomplete
      | some (content, rest) => .read (sectionToken content) rest

def doctypeMark : List Char := "doctype".toList

/-- Reads a declaration after its opening `<!`; one of an unknown kind is a remark. -/
def declaration (s : List Char) : Declaration :=
  match s with
  | '-' :: '-' :: r =>
    match search commentEnd? r with
    | some (_, rest) => .read .remark rest
    | none => .incomplete
  | '[' :: r => markedSection r
  | _ =>
    let named := doctypeMark == Text.lowerText (s.take doctypeMark.length)
    match search tagEnd? (if named then s.drop doctypeMark.length else s) with
    | some (_, rest) => .read .remark rest
    | none => .incomplete

end SpecGrammar.Markup
