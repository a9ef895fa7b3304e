import FilterGraph.Binary64.Text
import FilterGraph.Text.DecimalDigit
import FilterGraph.Value

namespace FilterGraph.Json

inductive Charset where
  | unicode
  | ascii
  deriving DecidableEq, Repr

def unitText (n : Nat) : List Char := '\\' :: 'u' :: (Text.hexPadded 4 n).toList

def charUnits (c : Char) : List Char :=
  let n := c.toNat
  if n < 0x10000 then unitText n
  else unitText (0xD800 + (n - 0x10000) / 0x400) ++ unitText (0xDC00 + (n - 0x10000) % 0x400)

def escapedChar (charset : Charset) (c : Char) : List Char :=
  if c = '"' || c = '\\' then ['\\', c]
  else if c = '\n' then ['\\', 'n']
  else if c = '\r' then ['\\', 'r']
  else if c = '\t' then ['\\', 't']
  else if c.toNat = 8 then ['\\', 'b']
  else if c.toNat = 12 then ['\\', 'f']
  else if c.toNat < 0x20 then charUnits c
  else if charset = .ascii && 0x7F ≤ c.toNat then charUnits c
  else [c]

def string (charset : Charset) (s : String) : String :=
  String.ofList ('"' :: s.toList.flatMap (escapedChar charset) ++ ['"'])

def number (x : Binary64) : String :=
  x.textWith { Binary64.Layout.plain with infinity := "Infinity", nan := "NaN" }

def scalar (charset : Charset) : Scalar → String
  | .null => "null"
  | .bool b => if b then "true" else "false"
  | .int n => toString n
  | .float x => number x
  | .text s => string charset s
  | .bytes bytes => string charset (String.ofList (bytes.map fun b => Char.ofNat b.toNat))
  | .date d => string charset d.toText
  | .dateTime t => string charset t.documentText

def key (charset : Charset) : Scalar → String
  | .text s => string charset s
  | s => string charset (scalar charset s)

def spaces (n : Nat) : String := String.ofList (List.replicate n ' ')

def block (opening closing : String) (depth : Nat) (items : List String) : String :=
  if items.isEmpty then opening ++ closing
  else
    let inner := "\n" ++ spaces (2 * depth + 2)
    opening ++ inner ++ ("," ++ inner).intercalate items ++ "\n" ++ spaces (2 * depth) ++ closing

mutual

def indentedAt (charset : Charset) (depth : Nat) : Value → String
  | .scalar s => scalar charset s
  | .list items => block "[" "]" depth (indentedItems charset (depth + 1) items)
  | .tuple items => block "[" "]" depth (indentedItems charset (depth + 1) items)
  | .set items => block "[" "]" depth (items.map (scalar charset))
  | .map entries => block "\x7b" "\x7d" depth (indentedEntries charset (depth + 1) entries)
  | .named _ v => indentedAt charset depth v
  | .again _ => "null"

def indentedItems (charset : Charset) (depth : Nat) : List Value → List String
  | [] => []
  | item :: rest => indentedAt charset depth item :: indentedItems charset depth rest

def indentedEntries (charset : Charset) (depth : Nat) : List (Scalar × Value) → List String
  | [] => []
  | (k, value) :: rest =>
    (key charset k ++ ": " ++ indentedAt charset depth value) :: indentedEntries charset depth rest

end

def indented (charset : Charset) (value : Value) : String := indentedAt charset 0 value

def sortedByKey (entries : List (String × String)) : List (String × String) :=
  entries.mergeSort fun a b => a.1 ≤ b.1

mutual

/-- The keys are sorted, so that equal documents have equal texts whatever the order of their keys. -/
def compact : Value → String
  | .scalar s => scalar .ascii s
  | .list items => "[" ++ ",".intercalate (compactItems items) ++ "]"
  | .tuple items => "[" ++ ",".intercalate (compactItems items) ++ "]"
  | .set items => "[" ++ ",".intercalate (items.map (scalar .ascii)) ++ "]"
  | .map entries =>
    "\x7b" ++
      ",".intercalate ((sortedByKey (compactEntries entries)).map fun (k, v) => string .ascii k ++ ":" ++ v) ++
      "\x7d"
  | .named _ v => compact v
  | .again _ => "null"

def compactItems : List Value → List String
  | [] => []
  | item :: rest => compact item :: compactItems rest

def compactEntries : List (Scalar × Value) → List (String × String)
  | [] => []
  | (.text k, value) :: rest => (k, compact value) :: compactEntries rest
  | (k, value) :: rest => (scalar .ascii k, compact value) :: compactEntries rest

end

end FilterGraph.Json
