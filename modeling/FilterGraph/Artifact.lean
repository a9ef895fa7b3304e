import FilterGraph.Event
import FilterGraph.Normalization
import FilterGraph.Order
import FilterGraph.Script

namespace FilterGraph

structure Analysis where
  normalization : Normalization
  coloring : Coloring

namespace Analysis

def graph (a : Analysis) : Graph := a.normalization.graph

def findings (a : Analysis) : List Finding :=
  a.normalization.findings ++ a.coloring.findings a.graph

end Analysis

def Graph.analyze (g : Graph) : Analysis :=
  let normalization := g.normalize
  { normalization, coloring := normalization.graph.coloring }

structure Artifact where
  entryPoint : String
  script : String
  files : Entries String String := []
  order : List String := []
  flows : Entries String Flow := []
  analysis? : Option Analysis := none

namespace Artifact

def findings (a : Artifact) : List Finding := (a.analysis?.map Analysis.findings).getD []

end Artifact

structure Plan where
  analysis : Analysis
  order : List String
  chains : Entries String String

namespace Plan

def ofAnalysis (a : Analysis) : Except ExportError Plan := do
  let order ← a.graph.order a.coloring
  let chains ← chainNames order
  return { analysis := a, order, chains }

def flows (p : Plan) : Entries String Flow :=
  p.order.map fun id => (id, p.analysis.coloring.flowOf p.analysis.graph id)

/-- Where a node is emitted; it owns the mark that is its place in the order. -/
def site (p : Plan) (s : Settings) (files : FileTree) (mark : Nat) (id : String) : Site :=
  { chains := p.chains, flow := p.analysis.coloring.flowOf p.analysis.graph id
    dataFolder := s.dataFolder, mark, files }

end Plan

namespace Fragment

def isFileNameStart (c : Char) : Bool := c.isAlphanum || c == '_'

def isFileNameChar (c : Char) : Bool := isFileNameStart c || c == '.' || c == '-'

/-- A data file name; a final line feed is let through. -/
def isFileName (name : String) : Bool :=
  let cs := name.toList
  let body := if cs.getLast? == some '\n' then cs.dropLast else cs
  match body with
  | [] => false
  | c :: rest => isFileNameStart c && rest.all isFileNameChar

def sortedFiles (f : Fragment) : Entries String String := f.files.mergeSort fun a b => a.1 ≤ b.1

def problem? (f : Fragment) (s : Settings) : Option ExportCause :=
  match f.sortedFiles.find? fun file => !isFileName file.1 with
  | some (name, _) => some (.invalidFileName name)
  | none => f.nat.findSome? fun (hook, _) => s.hookProblem? hook

def section? (f : Fragment) : Option String :=
  if f.script.isEmpty then none
  else some (String.ofList ((f.script.toList.reverse.dropWhile (· == '\n')).reverse))

end Fragment

structure Emission where
  node : String
  fragment : Fragment

namespace Emission

def placedFiles (s : Settings) (e : Emission) : Entries String String :=
  e.fragment.files.map fun (name, content) => (s!"{s.dataFolder}/{e.node}/{name}", content)

def statements (es : List Emission) : Entries String (List String) :=
  (es.flatMap (·.fragment.nat)).foldl
    (fun (known : Entries String (List String)) (hook, new) =>
      known.set hook ((known.get? hook).getD [] ++ new)) []

def files (s : Settings) (es : List Emission) : Entries String String :=
  let placed : Entries String String := (es.flatMap (placedFiles s)).foldl
    (fun (known : Entries String String) (path, content) => known.set path content) []
  placed.mergeSort fun a b => a.1 ≤ b.1

end Emission

namespace Plan

def emit (p : Plan) (s : Settings) (files : FileTree) (mark : Nat) (id : String) :
    Except ExportError Emission := do
  let g := p.analysis.graph
  let n ← match g.node? id with
    | some n => .ok n
    | none => .error ⟨some id, .failed "UnknownNode" (s!"Unknown node '{id}'")⟩
  let fragment ← (n.type.emit n.view (g.incoming id) (g.outgoing id) (p.site s files mark id)).mapError
    (EmitError.toExportError id n.type.typeId)
  match fragment.problem? s with
  | some cause => throw ⟨some id, cause⟩
  | none => return { node := id, fragment }

def emitAll (p : Plan) (s : Settings) (files : FileTree) :
    List (String × Nat) → List Emission × Option ExportError
  | [] => ([], none)
  | (id, mark) :: rest =>
    match p.emit s files mark id with
    | .error e => ([], some e)
    | .ok emission =>
      let (emissions, error?) := emitAll p s files rest
      (emission :: emissions, error?)

def marked (p : Plan) : List (String × Nat) := p.order.zipIdx.filter fun (id, _) => !isPermanentId id

def sections (p : Plan) (s : Settings) (es : List Emission) : List String :=
  let nat := Emission.statements es
  ScriptLine.joined (Script.preamble s p.analysis.graph p.chains) ::
    es.filterMap (·.fragment.section?) ++
    (if nat.isEmpty then [] else [ScriptLine.joined (Script.natLines nat)]) ++
    [ScriptLine.joined Script.epilogue]

def assembled (p : Plan) (s : Settings) (es : List Emission) : Artifact :=
  { entryPoint := s.entryPoint, script := "\n\n".intercalate (p.sections s es) ++ "\n"
    files := Emission.files s es, order := p.order, flows := p.flows, analysis? := some p.analysis }

def artifact (p : Plan) (s : Settings) (es : List Emission) : Except ExportError Artifact :=
  if (Scalar.int s.basePriority).isLongNumber then .error ⟨none, .fault (.unwritable .longNumber)⟩
  else .ok (p.assembled s es)

end Plan

structure Compilation where
  analysis : Analysis
  emissions : List Emission := []
  outcome : Except ExportError Artifact

namespace Compilation

def events (c : Compilation) : List Event :=
  c.analysis.findings.map .found ++
    c.emissions.map (fun e => .emitted e.node e.fragment.files.length) ++
    match c.outcome with
    | .error _ => []
    | .ok a => [.compiled (a.order.length - 2) a.files.length a.findings.length]

end Compilation

namespace Graph

def compilation (g : Graph) (s : Settings) (files : FileTree) : Compilation :=
  let analysis := g.analyze
  match Plan.ofAnalysis analysis with
  | .error e => { analysis, outcome := .error e }
  | .ok p =>
    let (emissions, error?) := p.emitAll s files p.marked
    match error? with
    | some e => { analysis, emissions, outcome := .error e }
    | none => { analysis, emissions, outcome := p.artifact s emissions }

def compile (g : Graph) (s : Settings) (files : FileTree) : Except ExportError Artifact :=
  (g.compilation s files).outcome

end Graph
end FilterGraph
