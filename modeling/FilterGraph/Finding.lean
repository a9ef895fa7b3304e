import FilterGraph.Port

namespace FilterGraph

inductive Finding where
  | unreachable (node : String)
  | cycleBroken (c : Connection)
  | flowConflict (port : PortRef) (declared reached : Flow)
  deriving DecidableEq, Repr

namespace Finding

def kind : Finding → String
  | .unreachable _ => "unreachable"
  | .cycleBroken _ => "cycle_broken"
  | .flowConflict _ _ _ => "color_conflict"

def message : Finding → String
  | .unreachable node => s!"Node '{node}' excluded as unreachable"
  | .cycleBroken c => s!"Connection {c.toText} closes a cycle and was removed"
  | .flowConflict port declared reached =>
    s!"Port {port.toText} declared {declared.name} but reached by {reached.name} flow"

def node : Finding → String
  | .unreachable node => node
  | .cycleBroken c => c.output.node
  | .flowConflict port _ _ => port.node

def port? : Finding → Option String
  | .unreachable _ => none
  | .cycleBroken c => some c.output.port
  | .flowConflict port _ _ => some port.port

def toText (f : Finding) : String := s!"[{f.kind}] {f.message}"

def toValue (f : Finding) : Value :=
  .record [("kind", .text f.kind), ("message", .text f.message), ("node_id", .text f.node),
    ("port", (f.port?.map .text).getD .null)]

end Finding
end FilterGraph
