import FilterGraph.DocumentFile
import FilterGraph.Finding
import FilterGraph.Settings

namespace FilterGraph

inductive Event where
  | extensionLoaded (id : String) (types : Nat)
  | extensionKnown (id : String)
  | bundleSkipped (path : String) (e : DocumentError)
  | found (f : Finding)
  | emitted (node : String) (files : Nat)
  | compiled (nodes : Int) (files findings : Nat)
  | exported (files : Nat) (entryPoint folder : String)
  | saved (nodes : Nat) (path : String)
  deriving DecidableEq, Repr

namespace Event

def level : Event → LogLevel
  | .extensionLoaded _ _ => .info
  | .extensionKnown _ => .debug
  | .bundleSkipped _ _ => .warning
  | .found _ => .warning
  | .emitted _ _ => .debug
  | .compiled _ _ _ => .info
  | .exported _ _ _ => .info
  | .saved _ _ => .debug

def origin : Event → String
  | .extensionLoaded _ _ => "nfgraph_core.graph.registry"
  | .extensionKnown _ => "nfgraph_core.graph.registry"
  | .bundleSkipped _ _ => "nfgraph_core.graph.extensions"
  | .found (.flowConflict _ _ _) => "nfgraph_core.graph.coloring"
  | .found _ => "nfgraph_core.graph.normalize"
  | .emitted _ _ => "nfgraph_core.graph.compiler"
  | .compiled _ _ _ => "nfgraph_core.graph.compiler"
  | .exported _ _ _ => "nfgraph_core.export.writer"
  | .saved _ _ => "nfgraph_core.io.snapshot"

def message : Event → String
  | .extensionLoaded id types => s!"Loaded extension '{id}' ({types} node types)"
  | .extensionKnown id => s!"Extension '{id}' already loaded"
  | .bundleSkipped path (.unreadable e) => s!"Skipping unreadable extension bundle {path}: {e.reason path}"
  | .bundleSkipped path _ => s!"Skipping unreadable extension bundle {path}"
  | .found f => f.toText
  | .emitted node files => s!"Emitted {node} ({files} data files)"
  | .compiled nodes files findings =>
    s!"Compiled graph: {nodes} nodes, {files} data files, {findings} warnings"
  | .exported files entryPoint folder =>
    s!"Exported {files} data files and {entryPoint} to {folder}"
  | .saved nodes path => s!"Saved snapshot with {nodes} nodes to {path}"

def toText (e : Event) : String := s!"{e.level.name} {e.origin}: {e.message}"

def logLines (least : LogLevel) (events : List Event) : List String :=
  (events.filter fun e => least.rank ≤ e.level.rank).map toText

end Event
end FilterGraph
