import FilterGraph.Json.Printer
import FilterGraph.Path
import FilterGraph.Snapshot
import FilterGraph.Text.LowerCase
import FilterGraph.Value.Plain
import FilterGraph.Yaml.Printer

namespace FilterGraph

def Params.plain (params : Params) : Except Unwritable Value := do
  return .record (← params.mapM fun (name, value) => do return (name, ← value.plain))

namespace SnapshotNode

def toValue (n : SnapshotNode) : Except Unwritable Value := do
  return .record [("id", .text n.id), ("type", .text n.typeId), ("params", ← Params.plain n.params),
    ("position", .list [.float n.position.1, .float n.position.2])]

end SnapshotNode

inductive Format where
  | json
  | yaml
  deriving DecidableEq, Repr

namespace Format

def all : List Format := [.json, .yaml]

def name : Format → String
  | .json => "json"
  | .yaml => "yaml"

def ofName? (s : String) : Option Format := all.find? (·.name == s)

def named (v : Value) : Except String Format :=
  match v.text?.bind ofName? with
  | some format => .ok format
  | none => .error v.toText

def ofPath (p : Path) : Format :=
  if [".yaml", ".yml"].contains (Text.lower p.suffix) then .yaml else .json

end Format

inductive DumpError where
  | unwritable (u : Unwritable)
  | unknownFormat (text : String)
  deriving DecidableEq, Repr

def DumpError.message : DumpError → String
  | .unwritable u => u.message
  | .unknownFormat text => s!"Unknown snapshot format: {text}"

namespace Snapshot

def toValue (s : Snapshot) : Except Unwritable Value := do
  return .record [("version", .int s.version), ("nodes", .list (← s.nodes.mapM SnapshotNode.toValue)),
    ("connections", .list (s.connections.map Connection.toValue)),
    ("extensions", .texts s.extensions.mergeSort), ("metadata", ← Params.plain s.metadata)]

def textOf (plain : Value) : Format → String
  | .json => Json.indented .unicode plain ++ "\n"
  | .yaml => Yaml.document plain

/-- The text of a snapshot in a form that may turn out not to exist. The data comes first, then the form, then
    the numbers in the data. -/
def dump (s : Snapshot) (format : Except String Format) : Except DumpError String := do
  let plain ← s.toValue.mapError .unwritable
  let format ← format.mapError .unknownFormat
  if plain.hasLongNumber then throw (.unwritable .longNumber)
  return textOf plain format

end Snapshot
end FilterGraph
