import FilterGraph.Yaml.Construction

namespace FilterGraph.Yaml

def isDocumentChar (c : Char) : Bool :=
  let n := c.toNat
  n == 0x9 || n == 0xA || n == 0xD || (0x20 ≤ n && n ≤ 0x7E) || n == 0x85 || (0xA0 ≤ n && n ≤ 0xD7FF) ||
    (0xE000 ≤ n && n ≤ 0xFFFD) || 0x10000 ≤ n

def read (text : List Char) : Reading Value := do
  Reading.ensure (text.all isDocumentChar)
  match ← Document.only? (tokens text) with
  | none => return .null
  | some d => d.toValue

end FilterGraph.Yaml
