import FilterGraph.Text.Utf8
import FilterGraph.Value
import FilterGraph.Yaml.ScalarText

namespace FilterGraph.Yaml

inductive Token where
  | version (major : Nat)
  | tagHandle (handle tagPrefix : String)
  | directive
  | documentStart
  | documentEnd
  | sequenceStart
  | mappingStart
  | blockEnd
  | flowSequenceStart
  | flowSequenceEnd
  | flowMappingStart
  | flowMappingEnd
  | flowEntry
  | entry
  | key
  | value
  | alias (name : String)
  | anchor (name : String)
  | tag (handle? : Option String) (suffix : String)
  | scalar (text : String) (isPlain : Bool)
  | broken (f : Failure)
  deriving DecidableEq, Repr

/-- A token that is a key if a colon follows; a required one cannot be anything else. `number` counts
    the tokens before it. -/
structure SimpleKey where
  number : Nat
  required : Bool
  index : Nat
  line : Nat
  column : Nat

/-- The tokens read so far, the last one first, their number, and what the next one depends on: the depth
    of flow collections, the indentation of the block collections around, whether a simple key may start
    here, and the key that may have started at each depth. -/
structure TokenScan where
  cursor : Cursor
  tokens : List Token := []
  count : Nat := 0
  flow : Nat := 0
  indent : Int := -1
  outer : List Int := []
  keyAllowed : Bool := true
  keys : Entries Nat SimpleKey := []

namespace Cursor

def anchorName (c : Cursor) : Reading (String × Cursor) := do
  let (name, c) := c.takeWhile isWordChar
  let ends := separates c.peek? || c.peek?.any fun ch => "?:,]\x7d%@`".toList.contains ch
  Reading.ensure (!name.isEmpty && ends)
  return (String.ofList name, c)

def percentBytes? : List Char → Option (List UInt8 × Nat)
  | '%' :: a :: b :: rest =>
    if Text.isHexDigit a && Text.isHexDigit b then
      match percentBytes? rest with
      | some (bytes, size) => some (UInt8.ofNat (Text.asciiNumber 16 [a, b]) :: bytes, size + 3)
      | none => none
    else none
  | '%' :: _ => none
  | _ => some ([], 0)

def isUriChar (c : Char) : Bool := c.isAlphanum || "-;/?:@&=+$,_.!~*'()[]%".toList.contains c

def uri (fuel : Nat) (c : Cursor) : Reading (List Char × Cursor) :=
  match fuel, c.peek? with
  | fuel + 1, some ch =>
    if ch == '%' then do
      let (bytes, size) ← Reading.ofOption (percentBytes? c.rest)
      let text ← Reading.ofOption (Utf8.decode bytes).toOption
      let (more, c) ← uri fuel (c.skip size)
      return (text ++ more, c)
    else if isUriChar ch then (uri fuel (c.past ch)).map fun (more, c) => (ch :: more, c)
    else .ok ([], c)
  | _, _ => .ok ([], c)

def someUri (c : Cursor) : Reading (String × Cursor) := do
  let (text, c) ← c.uri (c.left + 1)
  Reading.ensure (!text.isEmpty)
  return (String.ofList text, c)

def tagHandle (c : Cursor) : Reading (String × Cursor) := do
  Reading.ensure (c.peek? == some '!')
  let c := c.skip 1
  if c.peek? == some ' ' then return ("!", c)
  let (word, c) := c.takeWhile isWordChar
  Reading.ensure (c.peek? == some '!')
  return (String.ofList ('!' :: word ++ ['!']), c.skip 1)

def hasHandle (c : Cursor) : Bool :=
  (c.rest.drop 1).takeWhile (fun ch => !endsWord (some ch)) |>.contains '!'

def tag (c : Cursor) : Reading (Token × Cursor) := do
  let (token, c) ← (
    if c.peekAt? 1 == some '<' then do
      let (text, c) ← (c.skip 2).someUri
      Reading.ensure (c.peek? == some '>')
      return (Token.tag none text, c.skip 1)
    else if separates (c.peekAt? 1) then .ok (Token.tag none "!", c.skip 1)
    else do
      let (handle, c) ← if c.hasHandle then c.tagHandle else .ok ("!", c.skip 1)
      let (text, c) ← c.someUri
      return (Token.tag (some handle) text, c) : Reading (Token × Cursor))
  Reading.ensure (endsWord c.peek?)
  return (token, c)

def number (c : Cursor) : Reading (Nat × Cursor) := do
  let (digits, c) := c.takeWhile Char.isDigit
  Reading.ensure (!digits.isEmpty)
  if digits.length > 4300 then throw (.longInteger digits.length)
  return (Text.asciiNumber 10 digits, c)

def versionDirective (c : Cursor) : Reading (Token × Cursor) := do
  let (major, c) ← c.skipSpaces.number
  Reading.ensure (c.peek? == some '.')
  let (_, c) ← (c.skip 1).number
  Reading.ensure (endsWord c.peek?)
  return (.version major, c)

def tagDirective (c : Cursor) : Reading (Token × Cursor) := do
  let (handle, c) ← c.skipSpaces.tagHandle
  Reading.ensure (c.peek? == some ' ')
  let (tagPrefix, c) ← c.skipSpaces.someUri
  Reading.ensure (endsWord c.peek?)
  return (.tagHandle handle tagPrefix, c)

def directive (c : Cursor) : Reading (Token × Cursor) := do
  let (name, c) := (c.skip 1).takeWhile isWordChar
  Reading.ensure (!name.isEmpty && endsWord c.peek?)
  let (token, c) ← (
    if name == "YAML".toList then c.versionDirective
    else if name == "TAG".toList then c.tagDirective
    else .ok (.directive, c.skipLine) : Reading (Token × Cursor))
  return (token, ← Reading.ofOption c.restOfLine?)

end Cursor

namespace TokenScan

def push (s : TokenScan) (t : Token) : TokenScan := { s with tokens := t :: s.tokens, count := s.count + 1 }

def pushBefore (s : TokenScan) (n : Nat) (t : Token) : TokenScan :=
  { s with tokens := s.tokens.take n ++ t :: s.tokens.drop n, count := s.count + 1 }

def moveTo (s : TokenScan) (c : Cursor) : TokenScan := { s with cursor := c }

def withoutKey (s : TokenScan) : TokenScan := { s with keys := s.keys.filter (·.1 != s.flow) }

def allowKey (s : TokenScan) (b : Bool) : TokenScan := { s with keyAllowed := b }

def isStale (s : TokenScan) (k : SimpleKey) : Bool :=
  k.line != s.cursor.line || s.cursor.index - k.index > 1024

def dropStale (s : TokenScan) : Reading TokenScan := do
  Reading.ensure (!s.keys.any fun (_, k) => s.isStale k && k.required)
  return { s with keys := s.keys.filter fun (_, k) => !s.isStale k }

def dropKey (s : TokenScan) : Reading TokenScan := do
  Reading.ensure (!(s.keys.get? s.flow).any (·.required))
  return s.withoutKey

def noteKey (s : TokenScan) : Reading TokenScan :=
  if !s.keyAllowed then .ok s
  else do
    let s ← s.dropKey
    let c := s.cursor
    let key : SimpleKey :=
      { number := s.count, required := s.flow == 0 && s.indent == c.column
        index := c.index, line := c.line, column := c.column }
    return { s with keys := s.keys.set s.flow key }

def unwind (s : TokenScan) (column : Int) : TokenScan :=
  if s.flow != 0 then s
  else
    let ended := (s.indent :: s.outer).takeWhile (· > column)
    let left := (s.indent :: s.outer).dropWhile (· > column)
    { s with
      tokens := ended.map (fun _ => Token.blockEnd) ++ s.tokens
      count := ended.length + s.count
      indent := left.headD (-1)
      outer := left.tail }

def openBlock (s : TokenScan) (column : Nat) (n : Nat) (t : Token) : TokenScan :=
  if s.indent < column then
    { s.pushBefore n t with indent := column, outer := s.indent :: s.outer }
  else s

def finish (s : TokenScan) : Reading TokenScan := do
  let s ← (s.unwind (-1)).dropKey
  return s.allowKey false

def flowStart (s : TokenScan) (t : Token) : Reading TokenScan := do
  let s ← s.noteKey
  return (({ s with flow := s.flow + 1 }.allowKey true).moveTo (s.cursor.skip 1)).push t

def flowEnd (s : TokenScan) (t : Token) : Reading TokenScan := do
  let s ← s.dropKey
  Reading.ensure (s.flow != 0)
  return (({ s with flow := s.flow - 1 }.allowKey false).moveTo (s.cursor.skip 1)).push t

def flowEntry (s : TokenScan) : Reading TokenScan := do
  let s ← (s.allowKey true).dropKey
  return (s.moveTo (s.cursor.skip 1)).push .flowEntry

def blockStart (s : TokenScan) (t : Token) : Reading TokenScan :=
  if s.flow != 0 then .ok s
  else if !s.keyAllowed then .malformed
  else .ok (s.openBlock s.cursor.column 0 t)

def entry (s : TokenScan) : Reading TokenScan := do
  let s ← s.blockStart .sequenceStart
  let s ← (s.allowKey true).dropKey
  return (s.moveTo (s.cursor.skip 1)).push .entry

def key (s : TokenScan) : Reading TokenScan := do
  let s ← s.blockStart .mappingStart
  let s ← (s.allowKey (s.flow == 0)).dropKey
  return (s.moveTo (s.cursor.skip 1)).push .key

def value (s : TokenScan) : Reading TokenScan := do
  let s ← (
    match s.keys.get? s.flow with
    | some k =>
      let n := s.count - k.number
      let s := s.withoutKey.pushBefore n .key
      let s := if s.flow == 0 then s.openBlock k.column (n + 1) .mappingStart else s
      .ok (s.allowKey false)
    | none => do
      let s ← s.blockStart .mappingStart
      return s.allowKey (s.flow == 0) : Reading TokenScan)
  return (s.moveTo (s.cursor.skip 1)).push .value

def node (s : TokenScan) (read : Cursor → Reading (Token × Cursor)) : Reading TokenScan := do
  let s ← s.noteKey
  let (t, c) ← read s.cursor
  return ((s.allowKey false).moveTo c).push t

def plain (s : TokenScan) : Reading TokenScan := do
  let s ← s.noteKey
  let c := s.cursor
  let (text, keyMayFollow, c) := c.plain (s.flow != 0) (s.indent + 1) (c.left + 1) [] false
  return ((s.allowKey keyMayFollow).moveTo c).push (.scalar (String.ofList text) true)

def block (s : TokenScan) (fold : Bool) : Reading TokenScan := do
  let s ← (s.allowKey true).dropKey
  let (text, c) ← Reading.ofOption ((s.cursor.skip 1).block? fold s.indent)
  return (s.moveTo c).push (.scalar (String.ofList text) false)

def quoted (double : Bool) (c : Cursor) : Reading (Token × Cursor) :=
  (Cursor.quoted double (c.left + 1) (c.skip 1)).map fun (text, c) =>
    (.scalar (String.ofList text) false, c)

def startsPlain (s : TokenScan) (ch : Char) (next? : Option Char) : Bool :=
  (!isBreak ch && !" \t-?:,[]\x7b\x7d#&*!|>'\"%@`".toList.contains ch) ||
    (!separates next? && (ch == '-' || (s.flow == 0 && (ch == '?' || ch == ':'))))

def token (s : TokenScan) (ch : Char) : Reading TokenScan :=
  let c := s.cursor
  let next? := c.peekAt? 1
  let atMark := c.column == 0 && c.atDocumentMark
  if ch == '%' && c.column == 0 then do
    let s ← s.finish
    let (t, c) ← s.cursor.directive
    return (s.moveTo c).push t
  else if atMark then
    s.finish.map fun s => (s.moveTo (c.skip 3)).push (if ch == '-' then .documentStart else .documentEnd)
  else if ch == '[' then s.flowStart .flowSequenceStart
  else if ch == '\x7b' then s.flowStart .flowMappingStart
  else if ch == ']' then s.flowEnd .flowSequenceEnd
  else if ch == '\x7d' then s.flowEnd .flowMappingEnd
  else if ch == ',' then s.flowEntry
  else if ch == '-' && separates next? then s.entry
  else if ch == '?' && (s.flow != 0 || separates next?) then s.key
  else if ch == ':' && (s.flow != 0 || separates next?) then s.value
  else if ch == '*' then s.node fun c => (c.skip 1).anchorName.map fun (n, c) => (.alias n, c)
  else if ch == '&' then s.node fun c => (c.skip 1).anchorName.map fun (n, c) => (.anchor n, c)
  else if ch == '!' then s.node Cursor.tag
  else if ch == '|' && s.flow == 0 then s.block false
  else if ch == '>' && s.flow == 0 then s.block true
  else if ch == '\'' then s.node (quoted false)
  else if ch == '"' then s.node (quoted true)
  else if s.startsPlain ch next? then s.plain
  else .malformed

def advance (s : TokenScan) : Reading TokenScan := do
  let (c, crossed) := s.cursor.toToken (s.cursor.left + 1) false
  let s ← (if crossed && s.flow == 0 then (s.moveTo c).allowKey true else s.moveTo c).dropStale
  return s.unwind c.column

/-- The tokens before a failure. A token that may yet turn out to be a key is not known until what
    follows it has been read. -/
def tokensBefore (s : TokenScan) (f : Failure) : List Token :=
  let pending := (s.keys.filter fun (_, k) => !s.isStale k).map fun (_, k) => k.number
  s.tokens.reverse.take (pending.foldl min s.count) ++ [.broken f]

def run (fuel : Nat) (s : TokenScan) : List Token :=
  match fuel with
  | 0 => s.tokensBefore .malformed
  | fuel + 1 =>
    match s.advance with
    | .error f => s.tokensBefore f
    | .ok ready =>
      match ready.cursor.peek? with
      | none =>
        match ready.finish with
        | .error f => s.tokensBefore f
        | .ok s => s.tokens.reverse
      | some ch =>
        match ready.token ch with
        | .error f => s.tokensBefore f
        | .ok s => run fuel s

end TokenScan

def tokens (text : List Char) : List Token :=
  let size := text.length
  let start : Cursor := { rest := text, left := size }
  let start := if text.head? == some '\ufeff' then start.past '\ufeff' else start
  TokenScan.run (size + 1) { cursor := start }

end FilterGraph.Yaml
