import SpecGrammar.Yaml.Display
import SpecGrammar.Yaml.Node
import SpecGrammar.Yaml.Numeral

/-!
# Data from nodes

The data that a graph of nodes stands for. Every node is built once. A collection is made empty, and
filled when what was made before it has been filled, so of several faults the one on the outermost level
counts; a key is filled at once with all that it holds. A node that occurs within itself before it is made
counts as null there. Bytes are written as digits of base 64.
-/

namespace SpecGrammar.Text

/-! ### Bytes in base 64

Four digits stand for three bytes. A last group may be shorter, two digits for one byte or three for two,
and padding brings it up to four places. -/

/-- The value of a digit of base 64. -/
def base64Digit? (c : Char) : Option Nat :=
  if 'A' ≤ c && c ≤ 'Z' then some (c.toNat - 65)
  else if 'a' ≤ c && c ≤ 'z' then some (c.toNat - 71)
  else if c.isDigit then some (c.toNat + 4)
  else if c == '+' then some 62
  else if c == '/' then some 63
  else none

/-- The byte that a digit completes, given its place in the group of four and the digit before it. -/
def base64Byte? (place last digit : Nat) : Option UInt8 :=
  match place with
  | 0 => none
  | 1 => some (UInt8.ofNat (last * 4 + digit / 16))
  | 2 => some (UInt8.ofNat (last * 16 + digit / 4))
  | _ => some (UInt8.ofNat (last * 64 + digit))

/-- The bytes of the rest of a text, given how many digits of a group precede it, the last of them, and
how much padding stands behind that. Characters of other kinds do not count, and neither does what
stands behind a group that is full. -/
def base64Rest (place last padding : Nat) : List Char → Option (List UInt8)
  | [] => if place == 0 then some [] else none
  | c :: r =>
    match base64Digit? c with
    | some d => (base64Rest ((place + 1) % 4) d 0 r).map ((base64Byte? place last d).toList ++ ·)
    | none =>
      if c == '=' && 2 ≤ place then
        if 4 ≤ place + padding + 1 then some [] else base64Rest place last (padding + 1) r
      else base64Rest place last padding r

/-- The bytes of a text; nothing if its last group is not full. -/
def ofBase64? (s : List Char) : Option (List UInt8) := base64Rest 0 0 0 s

end SpecGrammar.Text

namespace SpecGrammar.Yaml

open Text

/-! ### Building -/

/-- A collection that has yet to be filled from its node. -/
structure Task where
  form : Form
  node : NodeId
  place : Nat
  deriving Repr

/-- The nodes, and what is built of them so far: the collections, the values of the nodes that are made,
the nodes that are being made, those that others were merged into, and the collections that have yet to be
filled; `atOnce` says that none may wait. -/
structure Site where
  nodes : Array Node
  version : Version
  collections : Array Collection := #[]
  known : List (NodeId × Value) := []
  active : List NodeId := []
  merged : List NodeId := []
  atOnce : Bool := false
  tasks : List Task := []

abbrev Builder := StateT Site (Except Fault)

namespace Builder

def refuse : Builder α := throw .malformed

/-! ### Nodes and collections -/

def node (id : NodeId) : Builder Node := do
  match (← get).nodes[id]? with
  | some n => return n
  | none => refuse

def setNode (id : NodeId) (n : Node) : Builder Unit :=
  modify fun s => { s with nodes := s.nodes.setIfInBounds id n }

/-- The pairs of a mapping. -/
def pairs (id : NodeId) : Builder Pairs := do
  match (← node id).content with
  | .mapping pairs => return pairs
  | _ => refuse

def setPairs (id : NodeId) (pairs : Pairs) : Builder Unit := do
  setNode id { ← node id with content := .mapping pairs }

/-- The pair of a mapping that has only one. -/
def singlePair (id : NodeId) : Builder (NodeId × NodeId) := do
  match ← pairs id with
  | [pair] => return pair
  | _ => refuse

def collection (place : Nat) : Builder Collection := do
  match (← get).collections[place]? with
  | some c => return c
  | none => refuse

/-- A new place for a collection. -/
def allocate (c : Collection) : Builder Nat := do
  let place := (← get).collections.size
  modify fun s => { s with collections := s.collections.push c }
  return place

def setCollection (place : Nat) (c : Collection) : Builder Unit :=
  modify fun s => { s with collections := s.collections.setIfInBounds place c }

/-- The number of nodes, which no chain of nodes without repetition exceeds. -/
def nodeCount : Builder Nat := do return (← get).nodes.size

/-- The number of pairs in all mappings. -/
def pairCount : Builder Nat := do
  let count (n : Node) : Nat :=
    match n.content with
    | .mapping pairs => pairs.length
    | _ => 0
  return (← get).nodes.toList.foldl (fun total n => total + count n) 0

/-! ### Merging -/

/-- Passes the pairs of a mapping from some position up to a merge key, and says where that is. A key for
the value of a mapping that is passed counts as text. -/
def passToMerge (id : NodeId) : Nat → Pairs → Builder (Option (Nat × NodeId))
  | _, [] => return none
  | position, (k, v) :: r => do
    let key ← node k
    match key.tag with
    | .merge => return some (position, v)
    | .value =>
      setNode k { key with tag := .str }
      passToMerge id (position + 1) r
    | _ => passToMerge id (position + 1) r

/-- Takes the merge keys out of a mapping, from some position on, and puts what they merge in front of its
pairs. Once pairs have been merged, there cannot be another merge key. Of several mappings merged by one
key the last comes first. -/
def flattenFrom : Nat → NodeId → Nat → Pairs → Builder Unit
  | 0, _, _, _ => refuse
  | fuel + 1, id, position, merged => do
    match ← passToMerge id position ((← pairs id).drop position) with
    | none =>
      unless merged.isEmpty do
        setPairs id (merged ++ (← pairs id))
        modify fun s => { s with merged := id :: s.merged }
    | some (position, v) =>
      unless merged.isEmpty do refuse
      setPairs id ((← pairs id).eraseIdx position)
      let flattened (other : NodeId) : Builder Pairs := do
        let _ ← pairs other
        flattenFrom fuel other 0 []
        pairs other
      match (← node v).content with
      | .mapping _ => flattenFrom fuel id position (← flattened v)
      | .sequence items =>
        let parts ← items.mapM flattened
        flattenFrom fuel id position parts.reverse.flatten
      | .scalar _ => refuse

/-- Takes the merge keys out of a mapping. Each of them is taken out once. -/
def flatten (id : NodeId) : Builder Unit := do
  flattenFrom ((← pairCount) + 1) id 0 []

/-! ### Scalars -/

/-- The text of a scalar; of a mapping it is the one under the key for its value. -/
def scalarText : Nat → NodeId → Builder (List CodePoint)
  | 0, _ => refuse
  | fuel + 1, id => do
    match (← node id).content with
    | .scalar text => return text
    | .sequence _ => refuse
    | .mapping pairs =>
      match ← pairs.findM? fun (k, _) => do return (← node k).tag == .value with
      | some (_, v) => scalarText fuel v
      | none => refuse

/-- The value of a node that is no collection. -/
def scalar (id : NodeId) (n : Node) : Builder Value := do
  let v := (← get).version
  let text : Builder (List CodePoint) := do scalarText ((← nodeCount) + 1) id
  match n.tag with
  | .null => return (fun _ => .null) (← text)
  | .bool => return .bool (← readTruth (← text))
  | .int => return .int (← readInteger v (← text))
  | .float =>
    match ← readDecimal v (← text) with
    | (.undefined, isNamed) => return .undefined (if isNamed then none else some id)
    | (x, _) => return .float x
  | .str => return .string (← text)
  | .timestamp =>
    match n.content with
    | .scalar text =>
      match (chars? text).bind fun s => written? (dropFinalFeed s) with
      | some w => return .timestamp (← w.timestamp)
      | none => refuse
    | _ => refuse
  | .binary =>
    let plain := (chars? (← text)).filter fun s => s.all (·.toNat < 0x80)
    match plain.bind ofBase64? with
    | some content => return .bytes content
    | none => refuse
  | .merge | .value | .unknown | .collection _ => refuse

/-! ### Filling collections -/

/-- A tuple in place of a pair. -/
def pairAsTuple (v : Value) : Builder Value := do
  match v with
  | .place n =>
    match ← collection n with
    | .pair k v => return .tuple [k, v]
    | _ => return v
  | v => return v

/-- The key for a value: a list becomes a tuple of what it holds by now, and no other collection can be a
key. -/
def asKey (v : Value) : Builder Value := do
  match v with
  | .place n =>
    match ← collection n with
    | .list items => return .tuple (← items.mapM pairAsTuple)
    | _ => refuse
  | v => return v

/-- Refuses a key that stands again. The values are named, so that they have to be ones that can be
written. -/
def refuseRepeated (key new old : Value) : Builder Unit := do
  let d : Data := { collections := (← get).collections }
  if [key, new, old].all fun v => (d.bare? v).isSome then refuse else throw .unwritableNumber

/-- The entries of a mapping with those of some pairs. Where keys are to differ, one that stands again is
refused; otherwise the later value counts. -/
def entries (build : Bool → NodeId → Builder Value) (differ : Bool) :
    Entries → Pairs → Builder Entries
  | found, [] => return found
  | found, (k, v) :: r => do
    let key ← asKey (← build true k)
    let value ← build false v
    unless key.isHashable do throw .unhashableKey
    if let some old := lookupKey key found then
      if differ then refuseRepeated key value old
    entries build differ (putKey key value found) r

/-- The entries of a mapping. Only where nothing is merged, the keys are to differ. -/
def mappingEntries (build : Bool → NodeId → Builder Value) (id : NodeId) : Builder Entries := do
  flatten id
  let differ := !(← get).merged.contains id
  entries build differ [] (← pairs id)

/-- Adds an entry to an ordered mapping. -/
def addOrdered (build : Bool → NodeId → Builder Value) (place item : Nat) : Builder Unit := do
  let (k, v) ← singlePair item
  let key ← build false k
  unless key.isHashable do throw .unhashableKey
  let found : Builder Entries := do
    match ← collection place with
    | .orderedMapping entries => return entries
    | _ => refuse
  if (lookupKey key (← found)).isSome then throw .repeatedKey
  let value ← build false v
  setCollection place (.orderedMapping (putKey key value (← found)))

/-- Adds a pair to a list. -/
def addPair (build : Bool → NodeId → Builder Value) (place item : Nat) : Builder Unit := do
  let (k, v) ← singlePair item
  let key ← build false k
  let value ← build false v
  let pair ← allocate (.pair key value)
  match ← collection place with
  | .list items => setCollection place (.list (items ++ [.place pair]))
  | _ => refuse

/-- Fills a collection from its node. -/
def fill (build : Bool → NodeId → Builder Value) (t : Task) : Builder Unit := do
  match t.form, (← node t.node).content with
  | .list, .sequence items => setCollection t.place (.list (← items.mapM (build false)))
  | .mapping, .mapping _ => setCollection t.place (.mapping (← mappingEntries build t.node))
  | .set, .mapping _ =>
    setCollection t.place (.set ((← mappingEntries build t.node).map (·.1)))
  | .orderedMapping, .sequence items => items.forM (addOrdered build t.place)
  | .pairs, .sequence items => items.forM (addPair build t.place)
  | _, _ => refuse

/-! ### Building -/

def emptyCollection : Form → Collection
  | .list | .pairs => .list []
  | .mapping => .mapping []
  | .set => .set []
  | .orderedMapping => .orderedMapping []

/-- The value of a node that is not made yet. -/
def make (build : Bool → NodeId → Builder Value) (id : NodeId) : Builder Value := do
  let n ← node id
  match n.tag with
  | .collection form =>
    let place ← allocate (emptyCollection form)
    let task : Task := ⟨form, id, place⟩
    if (← get).atOnce then fill build task
    else modify fun s => { s with tasks := s.tasks ++ [task] }
    return .place place
  | _ => scalar id n

/-- The value of a node. With `complete` all that it holds is filled at once; a node within itself leaves
that setting on. -/
def build : Nat → Bool → NodeId → Builder Value
  | 0, _, _ => refuse
  | fuel + 1, complete, id => do
    if let some v := (← get).known.lookup id then return v
    let atOnce := (← get).atOnce
    modify fun s => { s with atOnce := s.atOnce || complete }
    if (← get).active.contains id then return .null
    modify fun s => { s with active := id :: s.active }
    let v ← make (build fuel) id
    modify fun s => { s with
      known := (id, v) :: s.known
      active := s.active.erase id
      atOnce := if complete then atOnce else s.atOnce }
    return v

/-- Fills the collections that wait, in the order in which they were made. -/
def finish (fuel : Nat) : Nat → Builder Unit
  | 0 => return
  | rounds + 1 => do
    match (← get).tasks with
    | [] => return
    | t :: r =>
      modify fun s => { s with tasks := r }
      fill (build fuel) t
      finish fuel rounds

/-- The data of a graph. Every node is made and filled once at most. -/
def data (root : NodeId) : Builder Data := do
  let fuel := (← nodeCount) + 1
  let v ← build fuel false root
  finish fuel fuel
  return ⟨(← get).collections, v⟩

end Builder

/-- The data of the document in a text; null if the text holds no document. -/
def load (text : List Char) : Except Fault Data := do
  match ← readGraph text with
  | none => return {}
  | some g => (Builder.data g.root).run' { nodes := g.nodes, version := g.version }

end SpecGrammar.Yaml
