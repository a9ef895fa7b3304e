import FilterGraph.Unwritable
import FilterGraph.Value.Text

namespace FilterGraph

namespace Scalar

def decodedText (content : List UInt8) : Except Unwritable String :=
  match Utf8.decode content with
  | .ok cs => .ok (String.ofList cs)
  | .error e => .error (.undecodable e.atFirst)

def plainKey : Scalar → Except Unwritable String
  | .bool b => .ok (if b then "true" else "false")
  | .dateTime t => .ok t.documentText
  | .bytes content => decodedText content
  | k => if k.isLongNumber then .error .longNumber else .ok k.toText

def plain : Scalar → Except Unwritable Scalar
  | .float x => .ok (if x.isFinite then .float x else .null)
  | .date d => .ok (.text d.toText)
  | .dateTime t => .ok (.text t.documentText)
  | .bytes content => (decodedText content).map .text
  | s => .ok s

end Scalar

namespace Value

/-- How many values may stand in each other. -/
def depthLimit : Nat := 255

def within (depth : Nat) : Except Unwritable Unit :=
  if depth > depthLimit then .error .tooDeep else .ok ()

mutual

def plainAt (depth : Nat) : Value → Except Unwritable Value
  | .scalar s => do
    within depth
    return .scalar (← s.plain)
  | .list items => do
    within depth
    return .list (← plainItems (depth + 1) items)
  | .tuple items => do
    within depth
    return .list (← plainItems (depth + 1) items)
  | .set items => do
    within depth
    return .list (← items.mapM fun s => do
      within (depth + 1)
      return .scalar (← s.plain))
  | .map entries => do
    within depth
    return .map (Entries.ofRepeated (← plainEntries (depth + 1) entries))
  | .named _ v => plainAt depth v
  | .again _ => .error .circular

def plainItems (depth : Nat) : List Value → Except Unwritable (List Value)
  | [] => .ok []
  | item :: rest => do
    let item ← plainAt depth item
    return item :: (← plainItems depth rest)

def plainEntries (depth : Nat) :
    List (Scalar × Value) → Except Unwritable (List (Scalar × Value))
  | [] => .ok []
  | (key, value) :: rest => do
    let key ← key.plainKey
    let value ← plainAt depth value
    return (.text key, value) :: (← plainEntries depth rest)

end

def plain (v : Value) : Except Unwritable Value := v.plainAt 1

end Value
end FilterGraph
