import FilterGraph.Graph.Document

namespace FilterGraph

/-- The registries that loading bundles makes of the built-in types. -/
inductive Registry.Built : Registry → Prop
  | builtin : Built .builtin
  | loaded {r next : Registry} {b : Bundle} {isNew : Bool} (built : Built r)
      (loading : r.load b = .ok (next, isNew)) : Built next

structure Snapshot.Valid (s : Snapshot) : Prop where
  ids : ∀ n ∈ s.nodes, isNodeId n.id.toList = true
  references : s.problem? = none

inductive Edit where
  | add (typeId : String) (id? : Option String) (params : Params) (position : Value)
  | remove (id : String)
  | connect (c : Connection)
  | disconnect (output : PortRef)
  | beginDrag (r : PortRef)
  | endDrag (d : Drag) (r : PortRef)

inductive Edit.Answer where
  | node (id : String)
  | connection (c? : Option Connection)
  | drag (d : Drag)
  deriving DecidableEq, Repr

namespace Graph

def settled (g : Graph) : Except EditError (Graph × Edit.Answer) → Graph × Except EditError Edit.Answer
  | .ok (next, answer) => (next, .ok answer)
  | .error e => (g, .error e)

def edit (r : Registry) (g : Graph) : Edit → Graph × Except EditError Edit.Answer
  | .add typeId id? params position =>
    let (next, outcome) := g.add r typeId id? params position
    (next, outcome.map .node)
  | .remove id => g.settled ((g.remove id).map fun next => (next, .node id))
  | .connect c => g.settled ((g.connect c).map fun next => (next, .connection (some c)))
  | .disconnect output =>
    let (next, c?) := g.disconnect output
    (next, .ok (.connection c?))
  | .beginDrag p => g.settled ((g.beginDrag p).map fun (next, d) => (next, .drag d))
  | .endDrag d p => g.settled ((g.endDrag d p).map fun (next, c?) => (next, .connection c?))

def edits (r : Registry) (g : Graph) (es : List Edit) : Graph :=
  es.foldl (fun g e => (g.edit r e).1) g

/-- The graphs over a registry that edits make of the new graph or of one from a document. -/
inductive Reachable (r : Registry) : Graph → Prop
  | new : Reachable r .new
  | opened {s : Snapshot} {g : Graph} (valid : s.Valid) (opening : ofSnapshot r s = .ok g) : Reachable r g
  | edited {g : Graph} (reachable : Reachable r g) (e : Edit) : Reachable r (g.edit r e).1

theorem Reachable.edits {r : Registry} {g : Graph} (reachable : Reachable r g) (es : List Edit) :
    Reachable r (g.edits r es) := by
  induction es generalizing g with
  | nil => exact reachable
  | cons e rest ih => exact ih (reachable.edited e)

end Graph
end FilterGraph
