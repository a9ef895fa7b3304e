import FilterGraph.Registry
import FilterGraph.Snapshot

namespace FilterGraph

structure Node where
  id : String
  type : NodeType
  params : Params := []
  position : Position := .origin

namespace Node

def view (n : Node) : NodeView := ⟨n.id, n.params⟩

def ref (n : Node) (p : Port) : PortRef := ⟨n.id, p.name⟩

def outputRefs (n : Node) : List PortRef := n.type.outputs.map n.ref

def inputRefs (n : Node) : List PortRef := n.type.inputs.map n.ref

def refs (n : Node) : List PortRef := n.type.ports.map n.ref

end Node

def sourceId : String := "source"
def localhostId : String := "localhost"

def isPermanentId (id : String) : Bool := id == sourceId || id == localhostId

theorem isPermanentId_iff {id : String} : isPermanentId id = true ↔ id = sourceId ∨ id = localhostId := by
  simp only [isPermanentId, Bool.or_eq_true, beq_iff_eq]

def isPermanentType (typeId : String) : Bool := typeId == sourceType || typeId == localhostType

def permanentType? (id : String) : Option String :=
  if id == sourceId then some sourceType
  else if id == localhostId then some localhostType
  else none

/-- `extensions` are the extensions the graph depends on; `metadata` is for editors; `nextId` is the
    number the next generated id starts from. -/
structure Graph where
  nodes : List Node := []
  connections : List Connection := []
  extensions : List String := []
  metadata : Value := .map []
  nextId : Nat := 1

namespace Graph

def nodeIds (g : Graph) : List String := g.nodes.map (·.id)

def node? (g : Graph) (id : String) : Option Node := g.nodes.find? (·.id == id)

def contains (g : Graph) (id : String) : Bool := g.nodeIds.contains id

def port? (g : Graph) (r : PortRef) : Option Port := (g.node? r.node).bind (·.type.port? r.port)

def extensionIds (g : Graph) : List String := g.extensions.mergeSort

def target? (g : Graph) (output : PortRef) : Option PortRef :=
  (g.connections.find? (·.output == output)).map (·.input)

def outgoingOf (g : Graph) (n : Node) : List Connection :=
  n.outputRefs.filterMap fun r => (g.target? r).map fun input => ⟨r, input⟩

def outgoing (g : Graph) (id : String) : List Connection := ((g.node? id).map g.outgoingOf).getD []

/-- Where an input port stands among the inputs of a node; the last place counts, and other ports come
    after all. -/
def inputRank (inputs : List Port) (port : String) : Nat :=
  match (inputs.reverse.findIdx? (·.name == port)) with
  | some i => inputs.length - 1 - i
  | none => inputs.length

def incomingLe (inputs : List Port) (a b : Connection) : Bool :=
  let i := inputRank inputs a.input.port
  let j := inputRank inputs b.input.port
  i < j || (i == j && a.output.le b.output)

def incomingOf (g : Graph) (n : Node) : List Connection :=
  (g.connections.filter (·.input.node == n.id)).mergeSort (incomingLe n.type.inputs)

def incoming (g : Graph) (id : String) : List Connection := ((g.node? id).map g.incomingOf).getD []

def successors (g : Graph) (id : String) : List String := (g.outgoing id).map (·.input.node)

def predecessors (g : Graph) (id : String) : List String := (g.incoming id).map (·.output.node)

def ports (g : Graph) : List PortRef := g.nodes.flatMap Node.refs

def insert (g : Graph) (n : Node) : Graph :=
  { g with
    nodes := g.nodes ++ [n]
    extensions := match n.type.extension? with
      | some id => if g.extensions.contains id then g.extensions else g.extensions ++ [id]
      | none => g.extensions }

def new : Graph :=
  (({} : Graph).insert { id := sourceId, type := Builtin.source.nodeType }).insert
    { id := localhostId, type := Builtin.localhost.nodeType }

def without (g : Graph) (id : String) : Graph :=
  { g with
    nodes := g.nodes.filter (·.id != id)
    connections := g.connections.filter fun c => c.output.node != id && c.input.node != id }

def unplugged (g : Graph) (output : PortRef) : Graph :=
  { g with connections := g.connections.filter (·.output != output) }

def setParam (g : Graph) (id name : String) (value : Value) : Graph :=
  { g with nodes := g.nodes.map fun n =>
      if n.id == id then { n with params := Entries.set name value n.params } else n }

def sizeText (g : Graph) : String :=
  s!"<Graph {g.nodes.length} nodes, {g.connections.length} connections>"

end Graph
end FilterGraph
