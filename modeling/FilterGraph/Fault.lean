import FilterGraph.FileTree
import FilterGraph.Issue
import FilterGraph.Json.Failure
import FilterGraph.Unwritable
import FilterGraph.Yaml.Failure

namespace FilterGraph

inductive Fault where
  | file (path : String) (e : FileError)
  | change (f : FileFailure)
  | yaml (f : Yaml.Failure)
  | json (f : Json.Failure)
  | unwritable (u : Unwritable)
  | invalid (issues : List Issue)
  | emptyValue
  deriving DecidableEq, Repr

def Fault.message : Fault → String
  | .file path e => e.reason path
  | .change f => f.message
  | .yaml f => f.message
  | .json f => f.message
  | .unwritable u => u.message
  | .invalid issues =>
    let kinds := ", ".intercalate (issues.map (·.kind.name))
    s!"invalid graph: {kinds}"
  | .emptyValue => "a value is empty"

end FilterGraph
