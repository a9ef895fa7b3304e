import FilterGraph.Value
import FilterGraph.Yaml.Kind
import FilterGraph.Yaml.Token

namespace FilterGraph.Yaml

inductive Content where
  | scalar (text : String)
  | sequence (items : List Nat)
  | mapping (entries : List (Nat × Nat))
  deriving DecidableEq, Repr, Inhabited

structure Node where
  kind? : Option Kind
  content : Content
  deriving DecidableEq, Repr, Inhabited

structure NodeScan where
  tokens : List Token
  nodes : Array Node := #[]
  anchors : Entries String Nat := []

structure Properties where
  anchor? : Option String := none
  tag? : Option (Option String × String) := none

namespace Properties

def isEmpty (p : Properties) : Bool := p.anchor?.isNone && p.tag?.isNone

end Properties

def depthLimit : Nat := 488

namespace NodeScan

def next (s : NodeScan) : Reading (Option Token) :=
  match s.tokens with
  | .broken f :: _ => .error f
  | t :: _ => .ok (some t)
  | [] => .ok none

def nextIs (s : NodeScan) (ts : List Token) : Reading Bool := do return (← s.next).any ts.contains

def skip (s : NodeScan) : NodeScan := { s with tokens := s.tokens.tail }

def properties (s : NodeScan) : Reading (Properties × NodeScan) := do
  match ← s.next with
  | some (.anchor a) =>
    match ← s.skip.next with
    | some (.tag handle? suffix) => return (⟨some a, some (handle?, suffix)⟩, s.skip.skip)
    | _ => return (⟨some a, none⟩, s.skip)
  | some (.tag handle? suffix) =>
    match ← s.skip.next with
    | some (.anchor a) => return (⟨some a, some (handle?, suffix)⟩, s.skip.skip)
    | _ => return (⟨none, some (handle?, suffix)⟩, s.skip)
  | _ => return ({}, s)

def add (s : NodeScan) (n : Node) : Nat × NodeScan :=
  (s.nodes.size, { s with nodes := s.nodes.push n })

def addEmpty (s : NodeScan) : Nat × NodeScan := s.add ⟨plainKind? "", .scalar ""⟩

def addNamed (s : NodeScan) (anchor? : Option String) (n : Node) : Reading (Nat × NodeScan) :=
  let (id, added) := s.add n
  match anchor? with
  | none => .ok (id, added)
  | some name =>
    if (s.anchors.get? name).isSome then .malformed
    else .ok (id, { added with anchors := (name, id) :: s.anchors })

def fill (s : NodeScan) (id : Nat) (content : Content) : NodeScan :=
  { s with nodes := s.nodes.modify id fun n => { n with content } }

/-- A written tag with its handle replaced; a lone exclamation mark leaves the tag to be found as for a
    plain scalar. -/
def resolveTag (handles : Entries String String) (tag? : Option (Option String × String)) :
    Reading Tag :=
  match tag? with
  | none => .ok .plain
  | some (none, name) => .ok (if name == "!" then .plain else .explicit name)
  | some (some handle, suffix) =>
    match handles.get? handle with
    | some tagPrefix =>
      .ok (if tagPrefix ++ suffix == "!" then .plain else .explicit (tagPrefix ++ suffix))
    | none => .malformed

inductive Layout where
  | blockSequence
  | indentless
  | blockMapping
  | flowSequence
  | flowMapping
  deriving DecidableEq, Repr

/-- The collection that starts with a token. In a flow collection no block collection may start; after a key
    a sequence may start without being indented. -/
def layout? (block indentless : Bool) : Token → Option Layout
  | .entry => if indentless then some .indentless else none
  | .flowSequenceStart => some .flowSequence
  | .flowMappingStart => some .flowMapping
  | .sequenceStart => if block then some .blockSequence else none
  | .mappingStart => if block then some .blockMapping else none
  | _ => none

def enter (s : NodeScan) : Layout → NodeScan
  | .indentless => s
  | _ => s.skip

mutual

def node (handles : Entries String String) (block indentless : Bool) (fuel depth : Nat)
    (s : NodeScan) : Reading (Nat × NodeScan) :=
  match fuel with
  | 0 => .malformed
  | fuel + 1 => do
    match ← s.next with
    | some (.alias name) =>
      let id ← Reading.ofOption (s.anchors.get? name)
      return (id, s.skip)
    | _ =>
      let (p, s) ← s.properties
      let tag ← resolveTag handles p.tag?
      match ← s.next with
      | some (.scalar text isPlain) =>
        let tag := if p.tag?.isNone && !isPlain then Tag.quoted else tag
        s.skip.addNamed p.anchor? ⟨tag.kindOfText? text, .scalar text⟩
      | t? =>
        match t?.bind (layout? block indentless) with
        | some layout => collection handles layout tag p.anchor? fuel depth (s.enter layout)
        | none =>
          Reading.ensure (!p.isEmpty)
          s.addNamed p.anchor? ⟨tag.kindOfText? "", .scalar ""⟩
termination_by structural fuel

/-- A collection from behind its start. It is in the table before its items are. -/
def collection (handles : Entries String String) (layout : Layout) (tag : Tag)
    (anchor? : Option String) (fuel depth : Nat) (s : NodeScan) : Reading (Nat × NodeScan) :=
  match fuel with
  | 0 => .malformed
  | fuel + 1 => do
    let isMapping := layout == .blockMapping || layout == .flowMapping
    let (id, s) ← s.addNamed anchor?
      ⟨tag.kindOr (if isMapping then .mapping else .sequence), .sequence []⟩
    if depth ≥ depthLimit then throw .tooDeep
    let depth := depth + 1
    match layout with
    | .blockSequence =>
      let (items, s) ← blockItems handles fuel depth s
      return (id, s.fill id (.sequence items))
    | .indentless =>
      let (items, s) ← indentlessItems handles fuel depth s
      return (id, s.fill id (.sequence items))
    | .blockMapping =>
      let (entries, s) ← blockEntries handles fuel depth s
      return (id, s.fill id (.mapping entries))
    | .flowSequence =>
      let (items, s) ← flowItems handles true fuel depth s
      return (id, s.fill id (.sequence items))
    | .flowMapping =>
      let (entries, s) ← flowEntries handles true fuel depth s
      return (id, s.fill id (.mapping entries))
termination_by structural fuel

def nodeUnless (handles : Entries String String) (stops : List Token) (block indentless : Bool)
    (fuel depth : Nat) (s : NodeScan) : Reading (Nat × NodeScan) :=
  match fuel with
  | 0 => .malformed
  | fuel + 1 => do
    if ← s.nextIs stops then return s.addEmpty
    node handles block indentless fuel depth s
termination_by structural fuel

def blockItems (handles : Entries String String) (fuel depth : Nat) (s : NodeScan) :
    Reading (List Nat × NodeScan) :=
  match fuel with
  | 0 => .malformed
  | fuel + 1 => do
    match ← s.next with
    | some .entry =>
      let (item, s) ← nodeUnless handles [.entry, .blockEnd] true false fuel depth s.skip
      let (items, s) ← blockItems handles fuel depth s
      return (item :: items, s)
    | some .blockEnd => return ([], s.skip)
    | _ => throw .malformed
termination_by structural fuel

def indentlessItems (handles : Entries String String) (fuel depth : Nat) (s : NodeScan) :
    Reading (List Nat × NodeScan) :=
  match fuel with
  | 0 => .malformed
  | fuel + 1 => do
    match ← s.next with
    | some .entry =>
      let (item, s) ← nodeUnless handles [.entry, .key, .value, .blockEnd] true false fuel depth s.skip
      let (items, s) ← indentlessItems handles fuel depth s
      return (item :: items, s)
    | _ => return ([], s)
termination_by structural fuel

def blockEntries (handles : Entries String String) (fuel depth : Nat) (s : NodeScan) :
    Reading (List (Nat × Nat) × NodeScan) :=
  match fuel with
  | 0 => .malformed
  | fuel + 1 => do
    match ← s.next with
    | some .key =>
      let (key, s) ← nodeUnless handles [.key, .value, .blockEnd] true true fuel depth s.skip
      let (value, s) ← blockValue handles fuel depth s
      let (entries, s) ← blockEntries handles fuel depth s
      return ((key, value) :: entries, s)
    | some .blockEnd => return ([], s.skip)
    | _ => throw .malformed
termination_by structural fuel

def blockValue (handles : Entries String String) (fuel depth : Nat) (s : NodeScan) :
    Reading (Nat × NodeScan) :=
  match fuel with
  | 0 => .malformed
  | fuel + 1 => do
    if ← s.nextIs [.value] then
      nodeUnless handles [.key, .value, .blockEnd] true true fuel depth s.skip
    else return s.addEmpty
termination_by structural fuel

def flowItems (handles : Entries String String) (first : Bool) (fuel depth : Nat) (s : NodeScan) :
    Reading (List Nat × NodeScan) :=
  match fuel with
  | 0 => .malformed
  | fuel + 1 => do
    if ← s.nextIs [.flowSequenceEnd] then return ([], s.skip)
    if !first then Reading.ensure (← s.nextIs [.flowEntry])
    let s := if first then s else s.skip
    if ← s.nextIs [.key] then
      let (id, s) := s.skip.add ⟨some .mapping, .mapping []⟩
      if depth ≥ depthLimit then throw .tooDeep
      let (key, s) ←
        nodeUnless handles [.value, .flowEntry, .flowSequenceEnd] false false fuel (depth + 1) s
      let (value, s) ← flowValue handles [.flowEntry, .flowSequenceEnd] fuel (depth + 1) s
      let (items, s) ← flowItems handles false fuel depth (s.fill id (.mapping [(key, value)]))
      return (id :: items, s)
    else if ← s.nextIs [.flowSequenceEnd] then return ([], s.skip)
    else
      let (item, s) ← node handles false false fuel depth s
      let (items, s) ← flowItems handles false fuel depth s
      return (item :: items, s)
termination_by structural fuel

def flowEntries (handles : Entries String String) (first : Bool) (fuel depth : Nat)
    (s : NodeScan) : Reading (List (Nat × Nat) × NodeScan) :=
  match fuel with
  | 0 => .malformed
  | fuel + 1 => do
    if ← s.nextIs [.flowMappingEnd] then return ([], s.skip)
    if !first then Reading.ensure (← s.nextIs [.flowEntry])
    let s := if first then s else s.skip
    if ← s.nextIs [.key] then
      let (key, s) ←
        nodeUnless handles [.value, .flowEntry, .flowMappingEnd] false false fuel depth s.skip
      let (value, s) ← flowValue handles [.flowEntry, .flowMappingEnd] fuel depth s
      let (entries, s) ← flowEntries handles false fuel depth s
      return ((key, value) :: entries, s)
    else if ← s.nextIs [.flowMappingEnd] then return ([], s.skip)
    else
      let (key, s) ← node handles false false fuel depth s
      let (value, s) := s.addEmpty
      let (entries, s) ← flowEntries handles false fuel depth s
      return ((key, value) :: entries, s)
termination_by structural fuel

def flowValue (handles : Entries String String) (stops : List Token) (fuel depth : Nat)
    (s : NodeScan) : Reading (Nat × NodeScan) :=
  match fuel with
  | 0 => .malformed
  | fuel + 1 => do
    if ← s.nextIs [.value] then nodeUnless handles stops false false fuel depth s.skip
    else return s.addEmpty
termination_by structural fuel

end

end NodeScan

def defaultHandles : Entries String String := [("!", "!"), ("!!", coreTag "")]

def directives (versionSeen : Bool) (handles : Entries String String) :
    List Token → Reading (Entries String String × List Token)
  | .broken f :: _ => .error f
  | .version major :: rest =>
    if versionSeen || major != 1 then .malformed else directives true handles rest
  | .tagHandle handle tagPrefix :: rest =>
    if (handles.get? handle).isSome then .malformed
    else directives versionSeen (handles ++ [(handle, tagPrefix)]) rest
  | .directive :: rest => directives versionSeen handles rest
  | rest => .ok (handles ++ defaultHandles, rest)

def nodeFuel (tokens : List Token) : Nat := 6 * tokens.length + 8

def isDocumentStop : Token → Bool
  | .version _ | .tagHandle _ _ | .directive | .documentStart | .documentEnd => true
  | _ => false

structure Document where
  root : Nat
  nodes : Array Node

namespace Document

def ofContent (handles : Entries String String) (tokens : List Token) :
    Reading (Document × List Token) := do
  let (root, s) ← NodeScan.node handles true false (nodeFuel tokens) 0 { tokens }
  return (⟨root, s.nodes⟩, s.tokens)

def afterMark (handles : Entries String String) (tokens : List Token) :
    Reading (Document × List Token) :=
  if tokens.head?.all isDocumentStop then
    let (root, s) := NodeScan.addEmpty { tokens }
    .ok (⟨root, s.nodes⟩, tokens)
  else ofContent handles tokens

def take (tokens : List Token) : Reading (Document × List Token) :=
  match tokens with
  | .documentStart :: rest => afterMark defaultHandles rest
  | .version _ :: _ | .tagHandle _ _ :: _ | .directive :: _ => do
    let (handles, rest) ← directives false [] tokens
    match rest with
    | .documentStart :: rest => afterMark handles rest
    | _ => throw .malformed
  | _ => ofContent defaultHandles tokens

def noMore : List Token → Reading Unit
  | [] => .ok ()
  | .documentEnd :: rest => noMore rest
  | rest => do
    let _ ← directives false [] rest
    throw .malformed

def only? (tokens : List Token) : Reading (Option Document) :=
  match tokens with
  | [] => .ok none
  | _ => do
    let (d, rest) ← take tokens
    noMore rest
    return some d

end Document
end FilterGraph.Yaml
