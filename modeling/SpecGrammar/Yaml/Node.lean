import SpecGrammar.Yaml.Stream
import SpecGrammar.Yaml.Tag

/-!
# Nodes of a YAML document

The graph of scalars, sequences and mappings that the tokens of a document describe. A node is known by
its number, and an alias stands for the number of the node that it names, so that a node can occur at many
places and within itself.
-/

namespace SpecGrammar.Yaml

open Text

/-- The number of a node. -/
abbrev NodeId := Nat

/-- The pairs of a mapping. -/
abbrev Pairs := List (NodeId × NodeId)

inductive Content
  | scalar (text : List CodePoint)
  | sequence (items : List NodeId)
  | mapping (pairs : Pairs)
  deriving Repr

structure Node where
  tag : Tag
  content : Content
  deriving Repr

/-- A document: its nodes, and the number of the one that holds the others, with the version that its text
names. -/
structure Graph where
  nodes : Array Node
  root : NodeId
  version : Version
  deriving Repr

/-- The tokens that are still to be read, the nodes so far, the numbers of those that have names, and what
the handles of tags stand for. -/
structure Source where
  stream : Stream
  nodes : Array Node := #[]
  anchors : List (List Char × NodeId) := []
  handles : List (List Char × List Char) := []

abbrev Reader := StateT Source (Except Fault)

namespace Reader

def refuse : Reader α := throw .malformed

/-- The next token with its line; nothing at the end. -/
def peekPlaced : Reader (Option Placed) := do
  let stream ← (← get).stream.ready
  modify fun s => { s with stream := stream }
  return stream.queue.head?

def peek : Reader (Option Token) := do return (← peekPlaced).map (·.token)

def drop : Reader Unit := modify fun s => { s with stream := s.stream.drop }

def version : Reader Version := do return (← get).stream.version

/-! ### Making nodes -/

/-- A new node, with its name if it has one. -/
def add (name : Option (List Char)) (n : Node) : Reader NodeId := do
  let id := (← get).nodes.size
  modify fun s => { s with
    nodes := s.nodes.push n
    anchors := (name.map fun name => (name, id)).toList ++ s.anchors }
  return id

/-- A new collection. It has its number and its name before what it holds is read. -/
def addCollection (name : Option (List Char)) (tag : Tag) (content : Reader Content) :
    Reader NodeId := do
  let id ← add name ⟨tag, .scalar []⟩
  let content ← content
  modify fun s => { s with nodes := s.nodes.setIfInBounds id ⟨tag, content⟩ }
  return id

def named (name : List Char) : Reader NodeId := do
  match (← get).anchors.lookup name with
  | some id => return id
  | none => refuse

/-- The tag of a plain scalar. -/
def plainTag (text : List CodePoint) : Reader Tag := do
  let v ← version
  let tag :=
    match chars? text with
    | some s => Tag.ofPlain? v s
    | none => if v.isSupported then some .str else none
  match tag with
  | some tag => return tag
  | none => throw .unruledVersion

/-- The empty scalar, which stands where a node is left out. -/
def omitted : Reader NodeId := do add none ⟨← plainTag [], .scalar []⟩

/-! ### Properties -/

/-- The suffix of a tag with its escapes, each a percent sign and two digits, replaced by the characters
of their numbers. -/
def unescapeSuffix : Nat → List Char → Option (List Char)
  | 0, _ => none
  | _ + 1, [] => some []
  | fuel + 1, '%' :: r =>
    match Decimal.whole? 16 (r.take 2) with
    | some (.ofNat n) => (unescapeSuffix fuel (r.drop 2)).map (Char.ofNat n :: ·)
    | _ => none
  | fuel + 1, c :: r => (unescapeSuffix fuel r).map (c :: ·)

/-- The kind of node that a tag asks for; nothing if it leaves the choice to the node. -/
def tagOf (handle : Option (List Char)) (suffix : List Char) : Reader (Option Tag) := do
  let expansion ←
    match handle with
    | none => pure []
    | some h =>
      match (← get).handles.lookup h with
      | some expansion => pure expansion
      | none => refuse
  match unescapeSuffix (suffix.length + 1) suffix with
  | none => throw .unreadableTag
  | some suffix =>
    let address := expansion ++ suffix
    return if address == ['!'] then none else some (.ofAddress address)

/-- What stands before a node: its name, and its tag. The inner option of the tag is missing for the tag
that leaves the choice to the node. -/
structure Properties where
  name : Option (List Char) := none
  tag : Option (Option Tag) := none

def Properties.isEmpty (p : Properties) : Bool := p.name.isNone && p.tag.isNone

/-- The tag, given the one for a node without. -/
def Properties.tagOr (p : Properties) (default : Tag) : Tag := (p.tag.getD none).getD default

/-- Whether nothing fixes the kind of the node. -/
def Properties.isOpen (p : Properties) : Bool := p.tag.all (·.isNone)

/-- The name and the tag before a node, in either order. -/
def properties : Reader Properties := do
  match ← peek with
  | some (.anchor name) =>
    drop
    match ← peek with
    | some (.tag handle suffix) =>
      drop
      return ⟨some name, some (← tagOf handle suffix)⟩
    | _ => return ⟨some name, none⟩
  | some (.tag handle suffix) =>
    drop
    match ← peek with
    | some (.anchor name) =>
      drop
      return ⟨some name, some (← tagOf handle suffix)⟩
    | _ => return ⟨none, some (← tagOf handle suffix)⟩
  | _ => return {}

/-! ### Where a node may be left out -/

/-- Whether no node stands before the next token, given the tokens that may come instead of one. -/
def isOmitted (p : Token → Bool) : Reader Bool := do return (← peek).any p

def endsEntry : Token → Bool
  | .entry | .blockEnd => true
  | _ => false

def endsLooseEntry : Token → Bool
  | .entry | .key | .value | .blockEnd => true
  | _ => false

def endsBlockPart : Token → Bool
  | .key | .value | .blockEnd => true
  | _ => false

def endsFlowKey (b : Bracket) : Token → Bool
  | .value | .comma => true
  | .closing c => b == c
  | _ => false

def endsFlowValue (b : Bracket) : Token → Bool
  | .comma => true
  | .closing c => b == c
  | _ => false

/-! ### Reading -/

/-- What a node may be: in a block any node; as the key or value of a block mapping also a sequence
that is not indented; within brackets no block collection. -/
inductive Position
  | block | mappingPart | flow
  deriving DecidableEq

/-- Names and tags with no node behind them make an empty scalar. -/
def orEmpty (p : Properties) : Reader NodeId := do
  if p.isEmpty then refuse
  else
    let tag ← if p.isOpen then plainTag [] else pure (p.tagOr .str)
    add p.name ⟨tag, .scalar []⟩

/-- Whether a mapping may have a value without a key. -/
def allowsLoneValue : Reader Bool := do return (← version).isNewer

mutual

/-- The node at the next token. -/
def node (position : Position) : Nat → Reader NodeId
  | 0 => refuse
  | fuel + 1 => do
    if let some (.alias name) ← peek then
      drop
      return (← named name)
    let p ← properties
    let sequence (items : Reader (List NodeId)) : Reader NodeId :=
      addCollection p.name (p.tagOr (.collection .list)) (.sequence <$> items)
    let mapping (pairs : Reader Pairs) : Reader NodeId :=
      addCollection p.name (p.tagOr (.collection .mapping)) (.mapping <$> pairs)
    match ← peek with
    | some (.scalar plain text) =>
      drop
      let isPlain := p.isOpen && (plain || p.tag.isSome)
      let tag ← if isPlain then plainTag text else pure (p.tagOr .str)
      add p.name ⟨tag, .scalar text⟩
    | some .entry =>
      if position == .mappingPart then sequence (looseEntries fuel) else orEmpty p
    | some (.opening .square) =>
      drop
      sequence (flowItems true fuel)
    | some (.opening .curly) =>
      drop
      mapping (flowPairs true fuel)
    | some .blockSequence =>
      if position == .flow then orEmpty p
      else
        drop
        sequence (blockEntries fuel)
    | some .blockMapping =>
      if position == .flow then orEmpty p
      else
        drop
        mapping (blockPairs fuel)
    | _ => orEmpty p

/-- The entries of a block sequence, with its end. -/
def blockEntries : Nat → Reader (List NodeId)
  | 0 => refuse
  | fuel + 1 => do
    match ← peek with
    | some .entry =>
      drop
      let n ← if ← isOmitted endsEntry then omitted else node .block fuel
      return n :: (← blockEntries fuel)
    | some .blockEnd =>
      drop
      return []
    | _ => refuse

/-- The entries of a sequence that stands at the indentation of its mapping. -/
def looseEntries : Nat → Reader (List NodeId)
  | 0 => refuse
  | fuel + 1 => do
    match ← peek with
    | some .entry =>
      drop
      let n ← if ← isOmitted endsLooseEntry then omitted else node .block fuel
      return n :: (← looseEntries fuel)
    | _ => return []

/-- The pairs of a block mapping, with its end. Key or value may be left out. -/
def blockPairs : Nat → Reader Pairs
  | 0 => refuse
  | fuel + 1 => do
    match ← peek with
    | some .key =>
      drop
      let k ← if ← isOmitted endsBlockPart then omitted else node .mappingPart fuel
      let v ← blockValue fuel
      return (k, v) :: (← blockPairs fuel)
    | some .value =>
      unless ← allowsLoneValue do refuse
      let k ← omitted
      let v ← blockValue fuel
      return (k, v) :: (← blockPairs fuel)
    | some .blockEnd =>
      drop
      return []
    | _ => refuse

def blockValue : Nat → Reader NodeId
  | 0 => refuse
  | fuel + 1 => do
    match ← peek with
    | some .value =>
      drop
      if ← isOmitted endsBlockPart then omitted else node .mappingPart fuel
    | _ => omitted

/-- The items of a sequence in brackets, with the bracket that closes it. A pair among them is a
mapping of its own. -/
def flowItems (isFirst : Bool) : Nat → Reader (List NodeId)
  | 0 => refuse
  | fuel + 1 => do
    if let some (.closing .square) ← peek then
      drop
      return []
    unless isFirst do
      match ← peek with
      | some .comma => drop
      | _ => refuse
    match ← peek with
    | some .key =>
      let n ← addCollection none (.collection .mapping) do
        drop
        let k ← if ← isOmitted (endsFlowKey .square) then omitted else node .flow fuel
        let v ← flowValue .square fuel
        return .mapping [(k, v)]
      return n :: (← flowItems false fuel)
    | some (.closing .square) =>
      drop
      return []
    | _ =>
      let n ← node .flow fuel
      return n :: (← flowItems false fuel)

/-- The pairs of a mapping in brackets, with the bracket that closes it. -/
def flowPairs (isFirst : Bool) : Nat → Reader Pairs
  | 0 => refuse
  | fuel + 1 => do
    if let some (.closing .curly) ← peek then
      drop
      return []
    unless isFirst do
      match ← peek with
      | some .comma => drop
      | _ => refuse
    match ← peek with
    | some .key =>
      drop
      let k ← if ← isOmitted (endsFlowKey .curly) then omitted else node .flow fuel
      let v ← flowValue .curly fuel
      return (k, v) :: (← flowPairs false fuel)
    | some .value =>
      unless ← allowsLoneValue do refuse
      let k ← omitted
      let v ← flowValue .curly fuel
      return (k, v) :: (← flowPairs false fuel)
    | some (.closing .curly) =>
      drop
      return []
    | _ =>
      let k ← node .flow fuel
      let _ ← peek
      let v ← omitted
      return (k, v) :: (← flowPairs false fuel)

def flowValue (b : Bracket) : Nat → Reader NodeId
  | 0 => refuse
  | fuel + 1 => do
    match ← peek with
    | some .value =>
      drop
      if ← isOmitted (endsFlowValue b) then omitted else node .flow fuel
    | _ => omitted

end

/-! ### The document -/

/-- The handles that every document has. -/
def standardHandles : List (List Char × List Char) := [(['!'], ['!']), (['!', '!'], coreAddress)]

/-- The directives before a document: at most one version, the first one, and handles that differ. The
version must be a supported one. -/
def directives : Nat → Option Version → List (List Char × List Char) →
    Reader (List (List Char × List Char))
  | 0, _, _ => refuse
  | fuel + 1, v, handles => do
    match ← peek with
    | some (.directive d) =>
      drop
      match d with
      | .version w =>
        if v.isSome || w.major != 1 then refuse else directives fuel (some w) handles
      | .handle name expansion =>
        if (handles.lookup name).isSome then refuse
        else directives fuel v (handles ++ [(name, expansion)])
      | .other => directives fuel v handles
    | _ => if v.all Version.isSupported then return handles else throw .unsupportedVersion

/-- The tokens that may come instead of the content of a document. -/
def endsDocument : Token → Bool
  | .directive _ | .documentStart | .documentEnd => true
  | _ => false

/-- Reads the directives of a document and the marker that starts it. -/
def startDocument (fuel : Nat) : Reader Unit := do
  let handles ← directives fuel none []
  modify fun s => { s with handles := handles ++ standardHandles }
  match ← peek with
  | some .documentStart => drop
  | _ => refuse

/-- What holds all other nodes of a document. -/
def content (fuel : Nat) : Reader NodeId := do
  match ← peek with
  | some (.directive _) | some .documentStart =>
    startDocument fuel
    if (← peek).all endsDocument then omitted else node .block fuel
  | _ =>
    modify fun s => { s with handles := standardHandles }
    node .block fuel

/-- Skips markers that end a document. -/
def skipEnds : Nat → Reader Unit
  | 0 => refuse
  | fuel + 1 => do
    if let some .documentEnd ← peek then
      drop
      skipEnds fuel

/-- Nothing may follow the document but markers that end it, with nothing behind the first of them on its
line. Where only a new document may follow, faults in its directives count. -/
def ending (fuel : Nat) : Reader Unit := do
  let isMarked ←
    match ← peekPlaced with
    | some ⟨.documentEnd, line⟩ =>
      drop
      if (← peekPlaced).any (·.line == line) then refuse
      pure true
    | _ => pure false
  let mayBeBare := isMarked && (← version) != .older
  match ← peek with
  | none => return
  | some (.directive _) | some .documentStart =>
    startDocument fuel
    refuse
  | some _ =>
    if mayBeBare then refuse
    skipEnds fuel
    if (← peek).isSome then
      startDocument fuel
      refuse

/-- The only document of a text; nothing if there is none. -/
def document (fuel : Nat) : Reader (Option NodeId) := do
  if (← peek).isNone then return none
  let n ← content fuel
  ending fuel
  return some n

end Reader

/-- The most tokens that can stand for one character: a mapping may start and end there, with a key and a
value. -/
def tokensPerCharacter : Nat := 8

/-- The only document in a text; nothing if the text holds none. -/
def readGraph (text : List Char) : Except Fault (Option Graph) := do
  if !text.all isAllowed then throw .malformed
  let fuel := tokensPerCharacter * (text.length + 4)
  let (root, s) ← (Reader.document fuel).run { stream := .ofText text }
  return root.map fun root => ⟨s.nodes, root, s.stream.version⟩

end SpecGrammar.Yaml
