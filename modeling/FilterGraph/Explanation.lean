import FilterGraph.Artifact

namespace FilterGraph.Artifact

def titled (title : String) (lines : List String) : List String :=
  title :: String.ofList (List.replicate title.length '-') :: lines.map ("  " ++ ·) ++ [""]

def titledIfAny (title : String) (lines : List String) : List String :=
  if lines.isEmpty then [] else titled title lines

def summary (a : Artifact) : List String :=
  let nodes : Int := a.order.length - 2
  [s!"Nodes:        {nodes}", s!"Data files:   {a.files.length}",
    s!"Warnings:     {a.findings.length}"]

def typeName (a : Artifact) (id : String) : String :=
  ((a.analysis?.bind fun analysis => analysis.graph.node? id).map (·.type.typeId)).getD "?"

def orderLine (a : Artifact) (id : String) (place : Nat) : String :=
  let flow := ((a.flows.get? id).map fun f => ", " ++ f.name).getD ""
  s!"{place + 1}. [{id}] {a.typeName id}{flow}"

def connectionLines (a : Analysis) : List String :=
  (a.graph.connections.mergeSort Connection.le).map fun c =>
    s!"{c.toText} ({(a.coloring.connectionColor c).name})"

def explanationLines (a : Artifact) : List String :=
  let title := s!"nfgraph export: {a.entryPoint}"
  title :: String.ofList (List.replicate title.length '=') :: "" :: titled "Summary" a.summary ++
    titled "Emission order" (a.order.zipIdx.map fun (id, place) => a.orderLine id place) ++
    titledIfAny "Connections" ((a.analysis?.map connectionLines).getD []) ++
    titledIfAny "Data files" (a.files.map (·.1)) ++
    titledIfAny "Warnings" (a.findings.map Finding.toText)

def explanation (a : Artifact) : String := "\n".intercalate a.explanationLines

end FilterGraph.Artifact
