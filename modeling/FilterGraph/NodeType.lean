import FilterGraph.ExportError
import FilterGraph.FileTree
import FilterGraph.Param
import FilterGraph.Rule

namespace FilterGraph

structure Fragment where
  script : String := ""
  files : Entries String String := []
  nat : Entries String (List String) := []
  deriving DecidableEq, Repr

structure Predicate where
  variant : String
  params : Entries String String := []
  deriving DecidableEq, Repr

namespace Predicate

def sortedParams (p : Predicate) : Entries String String :=
  p.params.mergeSort fun a b => a.1 ≤ b.1

def toText (p : Predicate) : String :=
  let params := ", ".intercalate (p.sortedParams.map fun (name, value) => s!"{name}={value}")
  if params.isEmpty then s!"[{p.variant}]" else s!"[{p.variant} {params}]"

def toValue (p : Predicate) : Value :=
  .record [("variant", .text p.variant),
    ("params", .record (p.sortedParams.map fun (name, value) => (name, .text value)))]

end Predicate

structure NodeView where
  id : String
  params : Params

/-- Where a node is emitted: the chains of all exported nodes, the direction of the traffic, the folder
    for data files, the mark of the node, and the files at hand. -/
structure Site where
  chains : Entries String String
  flow : Flow := .incoming
  dataFolder : String := "data"
  mark : Int := 0
  files : FileTree

namespace Site

def chain (s : Site) (node : String) : Except EmitError String :=
  match s.chains.get? node with
  | some name => .ok name
  | none => .error (.missingChain node)

def nodeFolder (s : Site) (node : String) : String := s!"{s.dataFolder}/{node}"

def dataPath (s : Site) (node name : String) : String := s!"{s.dataFolder}/{node}/{name}"

def verdict (s : Site) (connection : Option Connection) : Except EmitError Verdict :=
  match connection with
  | none => .ok .leave
  | some c => (s.chain c.input.node).map .goto

def portVerdict (s : Site) (outgoing : List Connection) (port : String) : Except EmitError Verdict :=
  s.verdict (Connection.leaving port outgoing)

end Site

structure NodeType where
  kind : String
  typeId : String
  displayName : String := ""
  extension? : Option String := none
  ports : List Port := []
  params : List Param := []
  emit : NodeView → List Connection → List Connection → Site → Except EmitError Fragment
  predicate : NodeView → String → Except Unwritable (Option Predicate)

namespace NodeType

def inputs (t : NodeType) : List Port := t.ports.filter (·.kind == .input)

def outputs (t : NodeType) : List Port := t.ports.filter (·.kind == .output)

def port? (t : NodeType) (name : String) : Option Port := t.ports.find? (·.name == name)

def isTerminal (t : NodeType) : Bool := t.outputs.isEmpty

def toValue (t : NodeType) : Value :=
  .record [("type_id", .text t.typeId), ("display_name", .text t.displayName),
    ("extension_id", (t.extension?.map .text).getD .null),
    ("ports", .list (t.ports.map Port.toValue)), ("params", .list (t.params.map Param.toValue))]

def resolve (params : List Param) (typeId : String) (node : NodeView) :
    Except EmitError (Entries String String) :=
  (Param.resolve params node.params).mapError fun
    | .missing p => .refused ⟨some node.id, .missingParam p.name typeId⟩
    | .unwritable u => .unwritable u

def plainPredicate (typeId : String) (node : NodeView) : Except Unwritable Predicate := do
  return ⟨typeId, ← node.params.mapM fun (name, value) => do return (name, ← value.written)⟩

end NodeType

def isControl (c : Char) : Bool := c.toNat < 0x20 || c.toNat == 0x7F

def spacedControls (inRun : Bool) : List Char → List Char
  | [] => []
  | c :: rest =>
    if isControl c then (if inRun then [] else [' ']) ++ spacedControls true rest
    else c :: spacedControls false rest

def NodeView.label (node : NodeView) (displayName typeId : String) : Except Unwritable String :=
  match node.params.get? "label" with
  | some value => if value.isTruthy then value.written else .ok shown
  | none => .ok shown
where
  shown := if displayName.isEmpty then typeId else displayName

def NodeView.header (node : NodeView) (displayName typeId : String) : Except EmitError String := do
  let label ← (node.label displayName typeId).mapError EmitError.unwritable
  let shown := String.ofList (Text.trimChars (spacedControls false label.toList))
  return s!"# {node.id}: {shown} ({typeId})"

/-- What a node of a known type emits: script lines with their meaning, data files, and the NAT
    statements it asks for. -/
structure Listing where
  lines : List ScriptLine := []
  files : Entries String String := []
  nat : Entries String (List String) := []

def Listing.fragment (l : Listing) : Fragment :=
  { script := ScriptLine.joined l.lines, files := l.files, nat := l.nat }

end FilterGraph
