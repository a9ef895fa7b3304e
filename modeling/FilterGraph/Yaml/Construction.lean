import FilterGraph.Value.MemberTable
import FilterGraph.Yaml.Node
import FilterGraph.Yaml.Scalar

namespace FilterGraph.Yaml

inductive Part where
  | scalar (s : Scalar)
  | list (items : List Nat)
  | pairs (items : List (Nat × Nat))
  | map (entries : Entries Scalar Nat)
  | set (items : List Scalar)
  deriving Repr

/-- The nodes, how many entries their mappings have as they are written, what has been made of the nodes,
    and the collections still to be filled, the last one first. -/
structure Making where
  nodes : Array Node
  written : Nat
  parts : Array (Option Part)
  waiting : List Nat := []

namespace Making

def kind? (m : Making) (id : Nat) : Option Kind := m.nodes[id]?.bind (·.kind?)

def content? (m : Making) (id : Nat) : Option Content := m.nodes[id]?.map (·.content)

def part? (m : Making) (id : Nat) : Option Part := m.parts[id]?.join

def put (m : Making) (id : Nat) (p : Part) : Making :=
  { m with parts := m.parts.setIfInBounds id (some p) }

def scalarText (m : Making) (fuel id : Nat) : Reading String :=
  match fuel with
  | 0 => .error .tooDeep
  | fuel + 1 =>
    match m.content? id with
    | some (.scalar text) => .ok text
    | some (.mapping entries) =>
      match entries.find? fun (key, _) => m.kind? key == some .default with
      | some (_, value) => m.scalarText fuel value
      | none => .malformed
    | _ => .malformed

def readScalar (m : Making) (kind : Kind) (id : Nat) : Reading Scalar := do
  let text ← m.scalarText (m.nodes.size + 1) id
  match kind, m.content? id with
  | .timestamp, some (.mapping _) => throw .timestampOfMapping
  | _, _ => kind.readText text

def start (m : Making) (id : Nat) (p : Part) : Making :=
  { m.put id p with waiting := id :: m.waiting }

def make (m : Making) (id : Nat) : Reading Making :=
  if (m.part? id).isSome then .ok m
  else
    match m.kind? id with
    | none => .malformed
    | some .sequence => .ok (m.start id (.list []))
    | some .pairs => .ok (m.start id (.pairs []))
    | some .orderedMap => .ok (m.start id (.pairs []))
    | some .mapping => .ok (m.start id (.map []))
    | some .set => .ok (m.start id (.set []))
    | some kind => do return m.put id (.scalar (← m.readScalar kind id))

def setEntries (m : Making) (id : Nat) (entries : List (Nat × Nat)) : Making :=
  { m with nodes := m.nodes.modify id fun n => { n with content := .mapping entries } }

def entriesOf (m : Making) (id : Nat) : List (Nat × Nat) :=
  match m.content? id with
  | some (.mapping entries) => entries
  | _ => []

def nameDefault (m : Making) (key : Nat) : Making :=
  if m.kind? key == some .default then
    { m with nodes := m.nodes.modify key fun n => { n with kind? := some .text } }
  else m

/-- Brings in the entries that merge keys from place `index` on ask for; `found` are those brought in so
    far. Of several mappings under one key the last comes first. Every merge key is used once, so
    the number of written entries is fuel enough. -/
def mergeFrom (fuel index : Nat) (found : List (Nat × Nat)) (m : Making) (id : Nat) : Reading Making :=
  match fuel, m.content? id with
  | fuel + 1, some (.mapping entries) =>
    let rest := entries.drop index
    let kept := rest.takeWhile fun (key, _) => m.kind? key != some .merge
    let m := kept.foldl (fun m (key, _) => m.nameDefault key) m
    match rest.drop kept.length with
    | [] => .ok (if found.isEmpty then m else m.setEntries id (found ++ entries))
    | (_, value) :: after => do
      let next := index + kept.length
      let m := m.setEntries id (entries.take next ++ after)
      match m.content? value with
      | some (.mapping _) =>
        let m ← mergeFrom fuel 0 [] m value
        mergeFrom fuel next (found ++ m.entriesOf value) m id
      | some (.sequence items) =>
        let (m, brought) ← items.foldlM (fun (m, brought) item => do
          let m ← mergeFrom fuel 0 [] m item
          return (m, m.entriesOf item ++ brought)) (m, [])
        mergeFrom fuel next (found ++ brought) m id
      | _ => throw .malformed
  | _, _ => .malformed

def makeEntries (m : Making) (entries : List (Nat × Nat)) : Reading (Making × Entries Scalar Nat) :=
  entries.foldlM (fun (m, made) (key, value) => do
    let m ← m.make key
    match m.part? key with
    | some (.scalar s) => return (← m.make value, Entries.setBy Scalar.sameKey s value made)
    | _ => throw .malformed) (m, [])

def allEntries (m : Making) (id : Nat) : Reading (Making × Entries Scalar Nat) := do
  let m ← mergeFrom (m.written + 1) 0 [] m id
  match m.content? id with
  | some (.mapping entries) => m.makeEntries entries
  | _ => throw .malformed

def makePair (m : Making) (id : Nat) : Reading (Making × (Nat × Nat)) :=
  match m.content? id with
  | some (.mapping [(key, value)]) => do
    let m ← m.make key
    return (← m.make value, (key, value))
  | _ => .malformed

def makePairs (m : Making) (items : List Nat) : Reading (Making × List (Nat × Nat)) := do
  let (m, pairs) ← items.foldlM (fun (m, pairs) item => do
    let (m, pair) ← m.makePair item
    return (m, pair :: pairs)) (m, [])
  return (m, pairs.reverse)

def fill (m : Making) (id : Nat) : Reading Making :=
  match m.part? id, m.content? id with
  | some (.list _), some (.sequence items) => do
    let m ← items.foldlM make m
    return m.put id (.list items)
  | some (.pairs _), some (.sequence items) => do
    let (m, pairs) ← m.makePairs items
    return m.put id (.pairs pairs)
  | some (.map _), _ => do
    let (m, entries) ← m.allEntries id
    return m.put id (.map entries)
  | some (.set _), _ => do
    let (m, entries) ← m.allEntries id
    return m.put id (.set (entries.map (·.1)))
  | _, _ => .malformed

/-- Fills what waits, then what that has brought up. Every node waits at most once, so the number of nodes
    is fuel enough. -/
def fillAll (fuel : Nat) (m : Making) : Reading Making :=
  match fuel, m.waiting with
  | 0, _ => .ok m
  | _, [] => .ok m
  | fuel + 1, waiting => do
    let m ← waiting.reverse.foldlM fill { m with waiting := [] }
    fillAll fuel m

end Making

namespace Part

/-- A collection with the collections around it that it contains again; it has a name if there are any. -/
def closed (id : Nat) (v : Value) (again : List Nat) : Value × List Nat :=
  if again.isEmpty then (v, []) else (.named id v, again.eraseDups.filter (· != id))

def valueAt (parts : Array (Option Part)) (fuel : Nat) (around : List Nat) (id : Nat) :
    Value × List Nat :=
  match fuel with
  | 0 => (.null, [])
  | fuel + 1 =>
    if around.contains id then (.again id, [id])
    else
      let inner := valueAt parts fuel (id :: around)
      match parts[id]?.join with
      | none => (.null, [])
      | some (.scalar s) => (.scalar s, [])
      | some (.set items) => (.set (MemberTable.ordered items), [])
      | some (.list items) =>
        let found := items.map inner
        closed id (.list (found.map (·.1))) (found.flatMap (·.2))
      | some (.pairs items) =>
        let found := items.map fun (key, value) => (inner key, inner value)
        closed id (.list (found.map fun (key, value) => .tuple [key.1, value.1]))
          (found.flatMap fun (key, value) => key.2 ++ value.2)
      | some (.map entries) =>
        let found := entries.map fun (key, value) => (key, inner value)
        closed id (.map (found.map fun (key, value) => (key, value.1)))
          (found.flatMap fun (_, value) => value.2)

end Part

def Document.entryCount (d : Document) : Nat :=
  d.nodes.foldl (fun count n =>
    match n.content with
    | .mapping entries => count + entries.length
    | _ => count) 0

def Document.toValue (d : Document) : Reading Value := do
  let size := d.nodes.size
  let start : Making :=
    { nodes := d.nodes, written := d.entryCount, parts := Array.replicate size none }
  let m ← start.make d.root
  let m ← m.fillAll (size + 1)
  return (Part.valueAt m.parts (size + 1) [] d.root).1

end FilterGraph.Yaml
