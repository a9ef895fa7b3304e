import FilterGraph.NodeType

namespace FilterGraph

structure PortSpec where
  family : AddressFamily := .inet
  direction : Flow := .unset
  rule : String := ""
  displayName : String := ""
  deriving DecidableEq, Repr

structure NodeSpec where
  displayName : String
  params : Entries String String := []
  input : PortSpec := {}
  outputs : Entries String PortSpec := []
  setup : List String := []
  files : Entries String String := []
  deriving DecidableEq, Repr

structure Manifest where
  id : String
  version : String := "0"
  description : String := ""
  nodes : Entries String NodeSpec
  deriving DecidableEq, Repr

def Flow.directionName : Flow → String
  | .unset => "either"
  | f => f.name

def Flow.ofDirectionName? (s : String) : Option Flow := Flow.all.find? (·.directionName == s)

namespace PortSpec

def toValue (p : PortSpec) : Value :=
  .record [("family", .text p.family.name), ("direction", .text p.direction.directionName),
    ("rule", .text p.rule), ("display_name", .text p.displayName)]

def toInput (p : PortSpec) : Port :=
  { Port.input "in" p.displayName with family := p.family, flow := p.direction }

def toOutput (name : String) (p : PortSpec) : Port :=
  { Port.output name p.displayName with family := p.family, flow := p.direction }

end PortSpec

namespace NodeSpec

def textRecord (texts : Entries String String) : Value :=
  .record (texts.map fun (name, text) => (name, .text text))

def toValue (s : NodeSpec) : Value :=
  .record [("display_name", .text s.displayName), ("params", textRecord s.params),
    ("input", s.input.toValue), ("outputs", .record (s.outputs.map fun (name, p) => (name, p.toValue))),
    ("setup", .texts s.setup), ("files", textRecord s.files)]

def ports (s : NodeSpec) : List Port :=
  s.input.toInput :: s.outputs.map fun (name, p) => p.toOutput name

/-- Parameters of a manifest may be left out and are then empty. -/
def paramList (s : NodeSpec) : List Param :=
  s.params.map fun (name, label) =>
    { name, displayName := label, default? := some "", required := false }

end NodeSpec

namespace Manifest

def toValue (m : Manifest) : Value :=
  .record [("id", .text m.id), ("version", .text m.version), ("description", .text m.description),
    ("nodes", .record (m.nodes.map fun (name, s) => (name, s.toValue)))]

end Manifest
end FilterGraph
