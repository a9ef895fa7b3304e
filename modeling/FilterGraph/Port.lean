import FilterGraph.Value

namespace FilterGraph

inductive PortKind where
  | input
  | output
  deriving DecidableEq, Repr

inductive AddressFamily where
  | inet
  | ipv4
  | ipv6
  deriving DecidableEq, Repr

/-- A direction of traffic; on a declared port `unset` accepts both. -/
inductive Flow where
  | unset
  | incoming
  | outgoing
  deriving DecidableEq, Repr

namespace PortKind

def all : List PortKind := [.input, .output]

def name : PortKind → String
  | .input => "input"
  | .output => "output"

def ofName? (s : String) : Option PortKind := all.find? (·.name == s)

end PortKind

namespace AddressFamily

def all : List AddressFamily := [.inet, .ipv4, .ipv6]

def name : AddressFamily → String
  | .inet => "inet"
  | .ipv4 => "ipv4"
  | .ipv6 => "ipv6"

def ofName? (s : String) : Option AddressFamily := all.find? (·.name == s)

def compatible (a b : AddressFamily) : Bool := a == .inet || b == .inet || a == b

end AddressFamily

namespace Flow

def all : List Flow := [.unset, .incoming, .outgoing]

def name : Flow → String
  | .unset => "unset"
  | .incoming => "incoming"
  | .outgoing => "outgoing"

def ofName? (s : String) : Option Flow := all.find? (·.name == s)

def compatible (a b : Flow) : Bool := a == .unset || b == .unset || a == b

end Flow

structure Port where
  name : String
  kind : PortKind
  family : AddressFamily := .inet
  flow : Flow := .unset
  displayName : String := ""
  deriving DecidableEq, Repr

namespace Port

def input (name : String := "in") (displayName : String := "") : Port :=
  { name, kind := .input, displayName }

def output (name : String) (displayName : String := "") : Port :=
  { name, kind := .output, displayName := if displayName.isEmpty then name else displayName }

def toValue (p : Port) : Value :=
  .record [("name", .text p.name), ("kind", .text p.kind.name), ("family", .text p.family.name),
    ("flow", .text p.flow.name), ("display_name", .text p.displayName)]

end Port

structure PortRef where
  node : String
  port : String
  deriving DecidableEq, Repr

namespace PortRef

def toText (r : PortRef) : String := s!"{r.node}.{r.port}"

def le (a b : PortRef) : Bool := a.node < b.node || (a.node == b.node && a.port ≤ b.port)

def toValue (r : PortRef) : Value := .record [("node", .text r.node), ("port", .text r.port)]

end PortRef

structure Connection where
  output : PortRef
  input : PortRef
  deriving DecidableEq, Repr

namespace Connection

def toText (c : Connection) : String := s!"{c.output.toText} -> {c.input.toText}"

def le (a b : Connection) : Bool :=
  if a.output = b.output then a.input.le b.input else a.output.le b.output

def toValue (c : Connection) : Value :=
  .record [("output", c.output.toValue), ("input", c.input.toValue)]

def leaving (port : String) (outgoing : List Connection) : Option Connection :=
  outgoing.find? (·.output.port == port)

end Connection
end FilterGraph
