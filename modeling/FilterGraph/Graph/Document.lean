import FilterGraph.Graph.Edit

namespace FilterGraph

inductive Corruption where
  | unreadable (path : String) (e : FileError)
  | unparsable (path : String)
  | notAMap (source : String)
  | invalid (source? : Option String) (issues : List Issue)
  | wrongType (id expected found : String)
  | permanentType (id typeId : String)
  | lacksPermanent (ids : List String)
  | badConnection (c : Connection) (e : EditError)
  deriving DecidableEq, Repr

namespace Corruption

def message : Corruption → String
  | .unreadable path e => s!"Cannot read {path}: {e.reason path}"
  | .unparsable path => s!"Cannot parse {path}"
  | .notAMap source => s!"{source}: snapshot must be a mapping"
  | .invalid none _ => "Invalid graph snapshot"
  | .invalid (some source) _ => s!"{source}: invalid graph snapshot"
  | .wrongType id expected found => s!"Node '{id}' must have type '{expected}', got '{found}'"
  | .permanentType id typeId => s!"Node '{id}' uses permanent type '{typeId}'"
  | .lacksPermanent ids =>
    let shown := ", ".intercalate ids
    s!"Snapshot lacks permanent node(s): {shown}"
  | .badConnection c e => s!"Bad connection {c.toText}: {e.message}"

def details : Corruption → Value
  | .wrongType id _ _ => .record [("node", .text id)]
  | .permanentType id _ => .record [("node", .text id)]
  | .lacksPermanent ids => .record [("missing", .texts ids)]
  | .badConnection c _ =>
    .record [("output", .text c.output.toText), ("input", .text c.input.toText)]
  | _ => .map []

end Corruption

inductive GraphError where
  | corrupt (c : Corruption)
  | unknownType (typeId : String)
  | extension (e : ExtensionError)
  | fault (f : Fault)
  deriving DecidableEq, Repr

def GraphError.message : GraphError → String
  | .corrupt c => c.message
  | .unknownType typeId => (EditError.unknownType typeId).message
  | .extension e => e.message
  | .fault f => f.message

namespace Node

def toDocument (n : Node) : Checked SnapshotNode := do
  let id ← Checked.under (.field "id") (Checked.matching isNodeId (.text n.id))
  return { id, typeId := n.type.typeId, params := n.params, position := n.position }

end Node

namespace Graph

def toSnapshot (g : Graph) : Checked Snapshot := do
  let nodes ← g.nodes.mapM Node.toDocument
  let metadata ← Checked.under (.field "metadata") (Checked.dict .ok g.metadata)
  Checked.ensure Snapshot.problem?
    { nodes, connections := g.connections, extensions := g.extensionIds, metadata }

/-- Adds a node of a document; permanent ids and permanent types belong together. -/
def addDocumented (r : Registry) (g : Graph) (n : SnapshotNode) : Except GraphError Graph := do
  match permanentType? n.id with
  | some expected =>
    if n.typeId != expected then throw (.corrupt (.wrongType n.id expected n.typeId))
  | none => if isPermanentType n.typeId then throw (.corrupt (.permanentType n.id n.typeId))
  match r.get? n.typeId with
  | some type => return g.insert { id := n.id, type, params := n.params, position := n.position }
  | none => throw (.unknownType n.typeId)

def connectDocumented (g : Graph) (c : Connection) : Except GraphError Graph :=
  (g.connect c).mapError fun e => .corrupt (.badConnection c e)

def ofSnapshot (r : Registry) (s : Snapshot) : Except GraphError Graph := do
  let start : Graph :=
    { extensions := s.extensions.eraseDups
      metadata := .record s.metadata }
  let g ← s.nodes.foldlM (addDocumented r) start
  match [sourceId, localhostId].filter fun id => !g.contains id with
  | [] => s.connections.foldlM connectDocumented g
  | missing => throw (.corrupt (.lacksPermanent missing))

end Graph
end FilterGraph
