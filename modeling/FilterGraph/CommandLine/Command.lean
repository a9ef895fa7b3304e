import FilterGraph.CommandLine.Arguments
import FilterGraph.Explanation
import FilterGraph.Export
import FilterGraph.Graph.File
import FilterGraph.PacketPath
import FilterGraph.Settings.File

namespace FilterGraph

inductive CommandError where
  | settings (e : SettingsError)
  | extension (e : ExtensionError)
  | graph (e : GraphError)
  | corrupt (issues : List Issue)
  | export (e : ExportError)
  | save (e : SaveError)
  | emptyValue
  deriving DecidableEq, Repr

namespace CommandError

def report : CommandError → Except Fault String
  | .settings (.fault f) => .error f
  | .settings e => .ok e.message
  | .extension (.fault f) => .error f
  | .extension e => .ok e.message
  | .graph (.fault f) => .error f
  | .graph (.extension (.fault f)) => .error f
  | .graph e => .ok e.message
  | .corrupt issues => .error (.invalid issues)
  | .export ⟨_, .fault f⟩ => .error f
  | .export e => .ok e.message
  | .save (.file f) => .error (.change f)
  | .save (.dump (.unwritable u)) => .error (.unwritable u)
  | .save (.dump e) => .ok e.message
  | .emptyValue => .error .emptyValue

end CommandError

structure Answer where
  text : String
  success : Bool := true
  deriving DecidableEq, Repr

structure Run where
  tree : FileTree
  events : List Event := []
  outcome : Except CommandError Answer

namespace Run

def after (events : List Event) (r : Run) : Run := { r with events := events ++ r.events }

end Run

structure Workbench where
  settings : Settings := {}
  registry : Registry
  loader : Loader
  tree : FileTree

namespace Workbench

def answer (w : Workbench) (events : List Event) (outcome : Except CommandError Answer) : Run :=
  { tree := w.tree, events, outcome }

def withGraph (w : Workbench) (name : String) (work : Graph → Run) : Run :=
  let opening := Graph.openFile w.registry (some w.loader) w.tree (Path.ofText name)
  match opening.outcome with
  | .error e => w.answer opening.events (.error (.graph e))
  | .ok g => (work g).after opening.events

def runNew (w : Workbench) (name : String) : Run :=
  let p := Path.ofText name
  match Graph.new.toSnapshot with
  | .error issues => w.answer [] (.error (.corrupt issues))
  | .ok s =>
    match s.save none w.tree p with
    | (tree, .error e) => { tree, outcome := .error (.save e) }
    | (tree, .ok _) =>
      { tree, events := [.saved s.nodes.length p.toText]
        outcome := .ok ⟨s!"Wrote empty graph to {p.toText}\n", true⟩ }

def checkText (name : String) (a : Analysis) : String :=
  let warnings := String.join (a.findings.map fun f => s!"warning: {f.toText}\n")
  let nodes : Int := a.graph.nodes.length - 2
  let connections := a.graph.connections.length
  s!"{warnings}{name}: {nodes} exported nodes, {connections} connections, {a.findings.length} warnings\n"

def runCheck (w : Workbench) (name : String) (isStrict : Bool) : Run :=
  w.withGraph name fun g =>
    let a := g.analyze
    w.answer (a.findings.map .found)
      (.ok ⟨checkText name a, !isStrict || a.findings.isEmpty⟩)

def runExplain (w : Workbench) (name : String) : Run :=
  w.withGraph name fun g =>
    let c := g.compilation w.settings w.tree
    w.answer c.events ((c.outcome.map fun a => ⟨a.explanation ++ "\n", true⟩).mapError .export)

def pathLines (paths : Entries String (List PacketPath)) : List String :=
  paths.flatMap fun (id, ways) =>
    (id ++ ":") ::
      (if ways.isEmpty then ["  (no paths)"] else ways.map fun way => "  " ++ way.toText)

def pathsValue (paths : Entries String (List PacketPath)) : Value :=
  .record (paths.map fun (id, ways) => (id, .list (ways.map PacketPath.toValue)))

def printed (lines : List String) : String := String.join (lines.map (· ++ "\n"))

def pathsText (asJson : Bool) (paths : Entries String (List PacketPath)) : String :=
  if asJson then printed [Json.indented .ascii (pathsValue paths)] else printed (pathLines paths)

def runPaths (w : Workbench) (name : String) (asJson : Bool) : Run :=
  w.withGraph name fun g =>
    w.answer (g.analyze.findings.map .found)
      ((g.packetPaths.map fun paths => ⟨pathsText asJson paths, true⟩).mapError .export)

/-- Exports a graph. A folder that is missing is missed only when there is something to write. -/
def runExport (w : Workbench) (name : String) (folder? : Option String) : Run :=
  w.withGraph name fun g =>
    match folder? with
    | none =>
      let c := g.compilation w.settings w.tree
      w.answer c.events (c.outcome.mapError .export >>= fun _ => .error .emptyValue)
    | some folder =>
      let e := g.export w.settings w.tree (Path.ofText folder)
      { tree := e.tree, events := e.events
        outcome := (e.outcome.map fun a =>
          let nodes : Int := a.order.length - 2
          ⟨s!"Exported {nodes} nodes to {folder} ({a.findings.length} warnings)\n", true⟩).mapError
            .export }

def typeLine (t : NodeType) : String :=
  s!"{t.typeId}{Json.spaces (36 - t.typeId.length)} {t.displayName}"

def runTypes (w : Workbench) (asJson : Bool) : Run :=
  let text :=
    if asJson then printed [Json.indented .ascii (.list (w.registry.types.map NodeType.toValue))]
    else printed (w.registry.types.map typeLine)
  w.answer [] (.ok ⟨text, true⟩)

def run (w : Workbench) (c : CommandName) (a : Arguments) : Run :=
  let first := (a.operands.head?.join).getD ""
  match c with
  | .new => w.runNew first
  | .check => w.runCheck first (a.has .strict)
  | .explain => w.runExplain first
  | .paths => w.runPaths first (a.has .json)
  | .export => w.runExport first a.operands[1]?.join
  | .types => w.runTypes (a.has .json)

end Workbench

namespace Arguments

def settingsPath? (a : Arguments) (named? : Option String) : Option Path :=
  let chosen? := (a.values .config).getLast?.join.filter (· != "")
  (chosen?.or (named?.bind Settings.pathOfVariable?)).map Path.ofText

def loader? (a : Arguments) (s : Settings) : Option Loader :=
  ((a.values .extensionFolder).mapM id).map fun named =>
    ⟨(named ++ s.extensionPaths).map Path.ofText⟩

def extensions (a : Arguments) : List String := (a.values .extension).map (·.getD "[]")

def runWith (a : Arguments) (c : CommandName) (s : Settings) (t : FileTree) : Run :=
  match a.loader? s with
  | none => { tree := t, outcome := .error .emptyValue }
  | some loader =>
    let loading := Registry.builtin.loadAll loader t a.extensions
    let w : Workbench := { settings := s, registry := loading.registry, loader, tree := t }
    match loading.failure? with
    | some e => w.answer loading.events (.error (.extension e))
    | none => (w.run c a).after loading.events

def logLevel (a : Arguments) (s : Settings) : LogLevel :=
  if a.has .verbose then .debug else s.logLevel

end Arguments

structure CommandReport where
  tree : FileTree
  status : Nat := 0
  output : String := ""
  log : String := ""
  fault? : Option Fault := none

namespace CommandReport

def refused (t : FileTree) (r : Refusal) : CommandReport := { tree := t, status := r.status }

def ofRun (level : LogLevel) (r : Run) : CommandReport :=
  let log := Event.logLines level r.events
  match r.outcome with
  | .ok answer =>
    { tree := r.tree, status := if answer.success then 0 else 1, output := answer.text
      log := Workbench.printed log }
  | .error e =>
    match e.report with
    | .ok message =>
      { tree := r.tree, status := 1, log := Workbench.printed (log ++ [s!"error: {message}"]) }
    | .error fault =>
      { tree := r.tree, status := 1, log := Workbench.printed log, fault? := some fault }

end CommandReport

def runCommandLine (words : List String) (named? : Option String) (t : FileTree) :
    Except Refusal CommandReport := do
  let (c, a) ← commandOf? false words
  return match Settings.load t (a.settingsPath? named?) with
  | .error e => .ofRun .warning { tree := t, outcome := .error (.settings e) }
  | .ok s => .ofRun (a.logLevel s) (a.runWith c s t)

end FilterGraph
