import FilterGraph.NodeType

namespace FilterGraph

/-- A fragment that is the same for every node, or a list of what surrounds the node. -/
structure StaticFragment where
  script? : Option String := none
  params : Bool := false
  links : Bool := false
  files : Entries String String := []
  nat : Entries String (List String) := []
  deriving DecidableEq, Repr

inductive StaticEmission where
  | unsupported
  | refuse (text : String)
  | fail (kind text : String)
  | value (kind : String)
  | fragment (f : StaticFragment)
  deriving DecidableEq, Repr

inductive StaticPredicate where
  | plain
  | omitted
  | fixed (p : Predicate)
  deriving DecidableEq, Repr

/-- A node type that comes as code and not as a manifest, as far as it emits one fragment. -/
structure StaticType where
  typeId : String
  displayName : String := ""
  extension? : Option String := none
  ports : List Port := []
  params : List Param := []
  emission : StaticEmission := .unsupported
  predicate : StaticPredicate := .plain
  deriving DecidableEq, Repr

namespace StaticType

def surroundings (f : StaticFragment) (header : String) (values : Entries String String)
    (incoming outgoing : List Connection) (site : Site) : String :=
  let params := values.map fun (name, value) => s!"# {name}={value}"
  let links := incoming.map (fun c => s!"# from {c.toText}") ++
    outgoing.map (fun c => s!"# to {c.toText}") ++ [s!"# flow {site.flow.name} mark {site.mark}"]
  "\n".intercalate <| header ::
    (if f.params then params else []) ++ (if f.links then links else [])

def emit (t : StaticType) (node : NodeView) (incoming outgoing : List Connection) (site : Site) :
    Except EmitError Fragment :=
  match t.emission with
  | .unsupported => .error (.unsupported t.typeId)
  | .refuse text => .error (.refused ⟨some node.id, .other text⟩)
  | .fail kind text => .error (.failure kind text)
  | .value kind => .error (.notAFragment kind)
  | .fragment f => do
    let header ← node.header t.displayName t.typeId
    let values ← if f.params then NodeType.resolve t.params t.typeId node else .ok []
    let script := f.script?.getD (surroundings f header values incoming outgoing site)
    return { script, files := f.files, nat := f.nat }

def nodePredicate (t : StaticType) (node : NodeView) : Except Unwritable (Option Predicate) :=
  match t.predicate with
  | .plain => (NodeType.plainPredicate t.typeId node).map some
  | .omitted => .ok none
  | .fixed p => .ok (some p)

def nodeType (t : StaticType) : NodeType :=
  { kind := "StaticType", typeId := t.typeId, displayName := t.displayName
    extension? := t.extension?, ports := t.ports, params := t.params, emit := t.emit
    predicate := fun node _ => t.nodePredicate node }

end StaticType
end FilterGraph
