import FilterGraph.Manifest
import FilterGraph.Template

namespace FilterGraph

def isSafeChar (c : Char) : Bool := c.isAlphanum || "_.:/,@+-".toList.contains c

/-- A value of such characters; a final line feed is let through. -/
def isSafeValue (value : String) : Bool :=
  let cs := value.toList
  (if cs.getLast? == some '\n' then cs.dropLast else cs).all isSafeChar

namespace NodeSpec

/-- The values templates may refer to: the parameters, then the names of the place, which win. -/
def bindings (values : Entries String String) (node chain folder : String) : Entries String String :=
  [("node_id", node), ("chain", chain), ("data", folder), ("NFT", "\"$NFT\""), ("TABLE", "$TABLE")].foldl
    (fun known (name, value) => known.set name value) values

def safeValues (s : NodeSpec) (typeId : String) (node : NodeView) :
    Except EmitError (Entries String String) := do
  let values ← NodeType.resolve s.paramList typeId node
  match values.find? fun (_, value) => !isSafeValue value with
  | some (name, _) => throw (.refused ⟨some node.id, .unsafeValue name⟩)
  | none => return values

def render (node : NodeView) (values : Entries String String) (template : String) :
    Except EmitError String :=
  (Template.render template values).mapError fun cause => .refused ⟨some node.id, cause⟩

def ruleLine (r : Rule) : ScriptLine :=
  let trimmed := Text.trim r.statement
  if trimmed == r.statement then .rule r else .statement r.chain trimmed

def outputRule (node : NodeView) (outgoing : List Connection) (site : Site) (chain : String)
    (values : Entries String String) (name : String) (output : PortSpec) :
    Except EmitError ScriptLine := do
  let condition := Text.trim (← render node values output.rule)
  let verdict ← site.portVerdict outgoing name
  return ruleLine ⟨chain, if condition.isEmpty then .always else .expression condition, verdict⟩

def listing (s : NodeSpec) (typeId : String) (node : NodeView) (outgoing : List Connection)
    (site : Site) : Except EmitError Listing := do
  let chain ← site.chain node.id
  let values ← s.safeValues typeId node
  let values := bindings values node.id chain (site.nodeFolder node.id)
  let header ← node.header s.displayName typeId
  let setup ← s.setup.mapM (render node values)
  let rules ← s.outputs.mapM fun (name, output) => outputRule node outgoing site chain values name output
  let files ← s.files.mapM fun (name, template) => do return (name, ← render node values template)
  return { lines := .text header :: setup.map .text ++ rules, files }

def predicate (s : NodeSpec) (typeId : String) (node : NodeView) (output : String) :
    Except Unwritable Predicate := do
  let params : Entries String String ← s.params.mapM fun (name, _) => do
    return (name, ← ((node.params.get? name).map Value.written).getD (.ok ""))
  return ⟨typeId, if output.isEmpty then params else params.set "output" output⟩

def nodeType (extension name : String) (s : NodeSpec) : NodeType :=
  let typeId := s!"{extension}:{name}"
  { kind := "ExtensionNodeType", typeId, displayName := s.displayName, extension? := some extension
    ports := s.ports, params := s.paramList
    emit := fun node _ outgoing site => (s.listing typeId node outgoing site).map Listing.fragment
    predicate := fun node output => (s.predicate typeId node output).map some }

end NodeSpec

def Manifest.nodeTypes (m : Manifest) : List NodeType :=
  m.nodes.map fun (name, s) => s.nodeType m.id name

end FilterGraph
