import FilterGraph.Json.Printer
import FilterGraph.Manifest.NodeType
import FilterGraph.Sha256
import FilterGraph.Text.Utf8

namespace FilterGraph

structure Bundle where
  id : String
  types : List NodeType
  fingerprint : String
  source? : Option Path := none
  version : String := "0"
  description : String := ""

namespace Bundle

def fingerprintOf (v : Value) : String :=
  Sha256.hex (Utf8.encode (Json.compact v))

def ofManifest (m : Manifest) (source? : Option Path := none) : Bundle :=
  { id := m.id, types := m.nodeTypes, fingerprint := fingerprintOf m.toValue, source?
    version := m.version, description := m.description }

def ofTypes (id : String) (types : List NodeType) : Bundle :=
  let types := types.map fun t => { t with extension? := some (t.extension?.getD id) }
  { id, types, fingerprint := fingerprintOf (.list (types.map NodeType.toValue)) }

def toValue (b : Bundle) : Value :=
  .record [("id", .text b.id), ("version", .text b.version), ("description", .text b.description),
    ("fingerprint", .text b.fingerprint),
    ("source", (b.source?.map fun p => .text p.toText).getD .null),
    ("types", .list (b.types.map NodeType.toValue))]

end Bundle
end FilterGraph
