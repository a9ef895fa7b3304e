import FilterGraph.Coloring
import FilterGraph.ExportError

namespace FilterGraph.Graph

def innerIds (g : Graph) : List String := g.nodeIds.filter fun id => !isPermanentId id

def inDegree (g : Graph) (inner : List String) (id : String) : Nat :=
  (g.connections.filter fun c => c.input.node == id && inner.contains c.output.node).length

/-- The nodes that are not done while all that send them packets are; `sent` lists, for every connection
    that leaves a node which is done, where it leads. -/
def ready (g : Graph) (inner sent done : List String) : List String :=
  inner.filter fun id => !done.contains id && g.inDegree inner id ≤ sent.count id

def flowRank (f : Flow) : Nat := if f == .outgoing then 1 else 0

def orderLe (rank : String → Nat) (a b : String) : Bool :=
  rank a < rank b || (rank a == rank b && a ≤ b)

def least? (le : String → String → Bool) : List String → Option String
  | [] => none
  | id :: rest =>
    match least? le rest with
    | none => some id
    | some best => if le id best then some id else some best

def orderFrom (g : Graph) (le : String → String → Bool) (inner : List String) :
    Nat → List String → List String → List String
  | 0, _, _ => []
  | left + 1, sent, done =>
    match least? le (g.ready inner sent done) with
    | none => []
    | some id => id :: orderFrom g le inner left (sent ++ g.successors id) (done ++ [id])

def order (g : Graph) (colors : Coloring) : Except ExportError (List String) :=
  let inner := g.innerIds
  let ranks : Entries String Nat := inner.map fun id => (id, flowRank (colors.flowOf g id))
  let found := g.orderFrom (orderLe fun id => (ranks.get? id).getD 0) inner inner.length [] []
  if found.length = inner.length then .ok (sourceId :: found ++ [localhostId])
  else .error ⟨none, .cyclic found.length inner.length⟩

end FilterGraph.Graph
