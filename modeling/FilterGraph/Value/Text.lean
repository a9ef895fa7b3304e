import FilterGraph.Binary64.Text
import FilterGraph.Text.Quoted
import FilterGraph.Unwritable
import FilterGraph.Value

namespace FilterGraph

def bytesLiteral (bytes : List UInt8) : String :=
  let cs := bytes.map fun b => Char.ofNat b.toNat
  let mark := Text.quoteMark cs
  let shown := cs.flatMap fun c =>
    if c.toNat < 0x80 then Text.quotedChar mark c
    else '\\' :: 'x' :: (Text.hexPadded 2 c.toNat).toList
  String.ofList ('b' :: mark :: shown ++ [mark])

def longNumber : Nat := Nat.pow 10 4300

namespace Scalar

def isLongNumber : Scalar → Bool
  | .int n => longNumber ≤ n.natAbs
  | _ => false

def literal : Scalar → String
  | .null => "None"
  | .bool b => if b then "True" else "False"
  | .int n => toString n
  | .float x => x.toText
  | .text s => Text.quote s
  | .bytes bs => bytesLiteral bs
  | .date d => d.literal
  | .dateTime t => t.literal

def toText : Scalar → String
  | .text s => s
  | .date d => d.toText
  | .dateTime t => t.textWith " "
  | s => s.literal

end Scalar

namespace Value

def dots : Value → String
  | .list _ => "[...]"
  | .tuple _ => "(...)"
  | _ => "\x7b...\x7d"

def bracketed (opening closing : String) (items : List String) : String :=
  opening ++ ", ".intercalate items ++ closing

mutual

/-- The text of a value inside a list or a map; `around` are the named collections it stands in, with
    what stands for them. -/
def literalIn (around : List (Nat × String)) : Value → String
  | .scalar s => s.literal
  | .list items => bracketed "[" "]" (literals around items)
  | .tuple [item] => "(" ++ literalIn around item ++ ",)"
  | .tuple items => bracketed "(" ")" (literals around items)
  | .set [] => "set()"
  | .set items => bracketed "\x7b" "\x7d" (items.map Scalar.literal)
  | .map entries => bracketed "\x7b" "\x7d" (entryLiterals around entries)
  | .named name v => (around.lookup name).getD (literalIn ((name, v.dots) :: around) v)
  | .again name => (around.lookup name).getD "..."

def literals (around : List (Nat × String)) : List Value → List String
  | [] => []
  | item :: rest => literalIn around item :: literals around rest

def entryLiterals (around : List (Nat × String)) : List (Scalar × Value) → List String
  | [] => []
  | (key, value) :: rest => (key.literal ++ ": " ++ literalIn around value) :: entryLiterals around rest

end

def literal (v : Value) : String := v.literalIn []

def toText : Value → String
  | .scalar s => s.toText
  | value => value.literal

mutual

def hasLongNumber : Value → Bool
  | .scalar s => s.isLongNumber
  | .list items => itemsHaveLongNumber items
  | .tuple items => itemsHaveLongNumber items
  | .set items => items.any Scalar.isLongNumber
  | .map entries => entriesHaveLongNumber entries
  | .named _ v => v.hasLongNumber
  | .again _ => false

def itemsHaveLongNumber : List Value → Bool
  | [] => false
  | item :: rest => item.hasLongNumber || itemsHaveLongNumber rest

def entriesHaveLongNumber : List (Scalar × Value) → Bool
  | [] => false
  | (key, value) :: rest => key.isLongNumber || value.hasLongNumber || entriesHaveLongNumber rest

end

def written (v : Value) : Except Unwritable String :=
  if v.hasLongNumber then .error .longNumber else .ok v.toText

end Value
end FilterGraph
