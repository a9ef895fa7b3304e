import FilterGraph.Normalization
import FilterGraph.Order

namespace FilterGraph

abbrev PacketPath := List Predicate

namespace PacketPath

def toText (p : PacketPath) : String :=
  if p.isEmpty then "(everything)" else " -> ".intercalate (p.map Predicate.toText)

def toValue (p : PacketPath) : Value := .list (p.map Predicate.toValue)

end PacketPath

namespace Graph

def stepOf (n : Node) (c : Connection) : Except Unwritable PacketPath := do
  let predicate? ← n.type.predicate n.view c.output.port
  return if isPermanentId n.id then [] else predicate?.toList

def handOn (n : Node) (known : Entries String (List PacketPath)) (c : Connection) :
    Except Unwritable (Entries String (List PacketPath)) := do
  let step ← stepOf n c
  let here := (known.get? n.id).getD []
  return known.set c.input.node
    ((known.get? c.input.node).getD [] ++ here.map fun path => path ++ step)

def reaching (g : Graph) (order : List String) :
    Except Unwritable (Entries String (List PacketPath)) :=
  let start : Entries String (List PacketPath) :=
    order.map fun id => (id, if id == sourceId then [[]] else [])
  (order.filterMap g.node?).foldlM
    (fun known n => (g.outgoingOf n).foldlM (handOn n) known) start

def packetPaths (g : Graph) : Except ExportError (Entries String (List PacketPath)) := do
  let dag := g.normalize.graph
  let order ← dag.order dag.coloring
  let known ← (dag.reaching order).mapError fun u => ⟨none, .fault (.unwritable u)⟩
  return (order.filterMap dag.node?).filterMap fun n =>
    if n.type.isTerminal then some (n.id, (known.get? n.id).getD []) else none

end Graph
end FilterGraph
