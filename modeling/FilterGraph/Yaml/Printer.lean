import FilterGraph.Value.Text
import FilterGraph.Yaml.Cursor
import FilterGraph.Yaml.Kind
import FilterGraph.Yaml.Sheet

namespace FilterGraph.Yaml

inductive Style where
  | plain
  | single
  | double
  deriving DecidableEq, Repr

def isSpecial (c : Char) : Bool := c != '\n' && !(0x20 ≤ c.toNat && c.toNat ≤ 0x7E)

def breakMeetsSpace : List Char → Bool
  | a :: b :: rest => (a == ' ' && b == '\n') || (a == '\n' && b == ' ') || breakMeetsSpace (b :: rest)
  | _ => false

def hasInnerIndicator : List Char → Bool
  | a :: b :: rest =>
    (b == ':' && separates rest.head?) || (b == '#' && separates (some a)) || hasInnerIndicator (b :: rest)
  | _ => false

def startsWithIndicator (cs : List Char) : Bool :=
  ['-', '-', '-'].isPrefixOf cs || ['.', '.', '.'].isPrefixOf cs ||
    match cs with
    | [] => false
    | c :: rest =>
      "#,[]\x7b\x7d&*!|>'\"%@`".toList.contains c ||
        ((c == '?' || c == ':' || c == '-') && separates rest.head?)

def mayBePlain (cs : List Char) : Bool :=
  let atEnds (p : Char → Bool) := cs.head?.any p || cs.getLast?.any p
  !atEnds (fun c => c == ' ' || c == '\n') && !cs.contains '\n' && !cs.any isSpecial &&
    !startsWithIndicator cs && !hasInnerIndicator cs

def styleOf (s : String) : Style :=
  let cs := s.toList
  if plainKind? s == some .text && mayBePlain cs then .plain
  else if cs.any isSpecial || breakMeetsSpace cs then .double
  else .single

def isSimpleKey (key : String) : Bool :=
  key.length < 123 && !key.isEmpty && !key.toList.any isBreak

def floatText (x : Binary64) : String :=
  if x.isNaN then ".nan"
  else if x.isInfinite then (if x.isNegative then "-.inf" else ".inf")
  else
    let cs := x.toText.toList
    if cs.contains '.' then String.ofList cs
    else String.ofList (cs.flatMap fun c => if c == 'e' then ".0e".toList else [c])

namespace Sheet

def string (split : Bool) (indent : Nat) (s : Sheet) (t : String) : Sheet :=
  match styleOf t with
  | .plain => s.plain split indent t.toList
  | .single => s.single split indent t.toList
  | .double => s.double split indent t.toList

def scalar (split : Bool) (indent : Nat) (s : Sheet) : Scalar → Sheet
  | .text t => s.string split indent t
  | .null => s.plain split indent "null".toList
  | .bool b => s.plain split indent (if b then "true" else "false").toList
  | .int n => s.plain split indent (toString n).toList
  | .float x => s.plain split indent (floatText x).toList
  | .date d => s.plain split indent d.toText.toList
  | .dateTime t => s.plain split indent (t.textWith " ").toList
  | .bytes bs => s.string split indent (bytesLiteral bs)

def keyText : Scalar → String
  | .text t => t
  | k => k.toText

def members (indent : Nat) (s : Sheet) (ms : List Scalar) : Sheet :=
  ms.foldl (fun s m => ((s.indentTo indent).indicator "-" true false true).scalar true (indent + 2) m) s

mutual

/-- A value inside a collection that is indented by `indent`; a list that is the value of a key is not
    indented further unless it starts on the line of the key. -/
def value (indent : Nat) (ofKey : Bool) (s : Sheet) : Value → Sheet
  | .scalar a => s.scalar true (indent + 2) a
  | .list [] => (s.indicator "[" true true).indicator "]" false
  | .list (item :: rest) =>
    items (if ofKey && !s.indented then indent else indent + 2) s (item :: rest)
  | .tuple [] => (s.indicator "[" true true).indicator "]" false
  | .tuple (item :: rest) =>
    items (if ofKey && !s.indented then indent else indent + 2) s (item :: rest)
  | .set [] => (s.indicator "[" true true).indicator "]" false
  | .set (m :: rest) =>
    members (if ofKey && !s.indented then indent else indent + 2) s (m :: rest)
  | .named _ v => value indent ofKey s v
  | .again _ => s.scalar true (indent + 2) .null
  | .map [] => (s.indicator "\x7b" true true).indicator "\x7d" false
  | .map (entry :: rest) => entries (indent + 2) s (entry :: rest)

def items (indent : Nat) (s : Sheet) : List Value → Sheet
  | [] => s
  | item :: rest =>
    let s := (s.indentTo indent).indicator "-" true false true
    items indent (value indent false s item) rest

def entries (indent : Nat) (s : Sheet) : List (Scalar × Value) → Sheet
  | [] => s
  | (key, v) :: rest =>
    let s := s.indentTo indent
    let s :=
      if isSimpleKey (keyText key) then (s.scalar false (indent + 2) key).indicator ":" false
      else
        let s := (s.indicator "?" true false true).scalar true (indent + 2) key
        (s.indentTo indent).indicator ":" true false true
    entries indent (value indent true s v) rest

end
end Sheet

def document (v : Value) : String :=
  let s : Sheet :=
    match v with
    | .map (entry :: rest) => Sheet.entries 0 {} (entry :: rest)
    | .list (item :: rest) => Sheet.items 0 {} (item :: rest)
    | v => Sheet.value 0 false {} v
  (s.indentTo 0).text

end FilterGraph.Yaml
