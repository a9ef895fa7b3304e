import FilterGraph.Fault

namespace FilterGraph

inductive ExtensionError where
  | conflict (id : String) (typeIds : List String)
  | notFound (id : String)
  | unreadable (path : String) (e : FileError)
  | unparsable (path : String)
  | notAMap (path : String)
  | invalid (path? : Option String) (issues : List Issue)
  | misnamed (path declared expected : String)
  | fault (f : Fault)
  deriving DecidableEq, Repr

def ExtensionError.message : ExtensionError → String
  | .conflict id [] => s!"Extension '{id}' is already loaded with different content"
  | .conflict id typeIds =>
    let shown := ", ".intercalate typeIds
    s!"Extension '{id}' conflicts on {shown}"
  | .notFound id => s!"Extension '{id}' not found"
  | .unreadable path e => s!"Cannot read extension bundle {path}: {e.reason path}"
  | .unparsable path => s!"Cannot parse extension bundle {path}"
  | .notAMap path => s!"Extension bundle {path} must be a mapping"
  | .invalid none _ => "Invalid extension bundle"
  | .invalid (some path) _ => s!"Invalid extension bundle in {path}"
  | .misnamed path declared expected =>
    s!"{path} declares extension '{declared}', expected '{expected}'"
  | .fault f => f.message

end FilterGraph
