import FilterGraph.Issue
import FilterGraph.Port
import FilterGraph.Param
import FilterGraph.Text.Quoted

namespace FilterGraph

abbrev Position := Binary64 × Binary64

def Position.origin : Position := (.zero, .zero)

structure SnapshotNode where
  id : String
  typeId : String
  params : Params := []
  position : Position := .origin
  deriving Repr

structure Snapshot where
  version : Int := 1
  nodes : List SnapshotNode
  connections : List Connection := []
  extensions : List String := []
  metadata : Params := []
  deriving Repr

open Checked

def isNodeId : List Char → Bool
  | [] => false
  | c :: rest => c.isAlpha && rest.all fun c => c.isAlphanum || c == '_' || c == '-'

def PortRef.check : Value → Checked PortRef :=
  record fun entries =>
    (Except.ok PortRef.mk
      |> apply (required "node" string entries)
      |> apply (required "port" string entries)
      |> andAlso) (noOthers ["node", "port"] entries)

def Connection.check : Value → Checked Connection :=
  record fun entries =>
    (Except.ok Connection.mk
      |> apply (required "output" PortRef.check entries)
      |> apply (required "input" PortRef.check entries)
      |> andAlso) (noOthers ["output", "input"] entries)

namespace SnapshotNode

def check : Value → Checked SnapshotNode :=
  record fun entries =>
    (Except.ok SnapshotNode.mk
      |> apply (required "id" (matching isNodeId) entries)
      |> apply (required "type" string entries)
      |> apply (defaulted "params" (dict .ok) [] entries)
      |> apply (defaulted "position" (pair float) Position.origin entries)
      |> andAlso) (noOthers ["id", "type", "params", "position"] entries)

end SnapshotNode

namespace Snapshot

def nodeIds (s : Snapshot) : List String := s.nodes.map (·.id)

def firstRepeated? {α : Type} [BEq α] : List α → List α → Option α
  | _, [] => none
  | seen, a :: rest => if seen.contains a then some a else firstRepeated? (a :: seen) rest

def firstLooseEnd? (s : Snapshot) : Option PortRef :=
  (s.connections.flatMap fun c => [c.output, c.input]).find? fun r => !s.nodeIds.contains r.node

def sortedSet (ss : List String) : List String := ss.eraseDups.mergeSort

/-- What is wrong with the references inside the document: node ids are unique, connections join nodes
    of the document, and an output port has at most one connection. -/
def problem? (s : Snapshot) : Option String :=
  match firstRepeated? [] s.nodeIds with
  | some id => some s!"Duplicate node id: '{id}'"
  | none =>
    match s.firstLooseEnd? with
    | some r =>
      let known := "[" ++ ", ".intercalate ((sortedSet s.nodeIds).map Text.quote) ++ "]"
      some s!"Connection endpoint '{r.toText}' references unknown node '{r.node}'. Available: {known}"
    | none => (firstRepeated? [] (s.connections.map (·.output))).map fun r =>
        s!"Output port '{r.toText}' has more than one connection"

def read : Value → Checked Snapshot :=
  record fun entries =>
    (Except.ok Snapshot.mk
      |> apply (defaulted "version" int 1 entries)
      |> apply (required "nodes" (list SnapshotNode.check) entries)
      |> apply (defaulted "connections" (list Connection.check) [] entries)
      |> apply (defaulted "extensions" (list string) [] entries)
      |> apply (defaulted "metadata" (dict .ok) [] entries)
      |> andAlso) (noOthers ["version", "nodes", "connections", "extensions", "metadata"] entries)

def check (v : Value) : Checked Snapshot := do
  let s ← read v
  ensure problem? s

end Snapshot
end FilterGraph
