import FilterGraph.Graph

namespace FilterGraph

inductive PositionError where
  | tooShort
  | noItem (n : Nat)
  | notAPair
  | notANumber
  | notNumeric (text : String)
  | tooLarge
  deriving DecidableEq, Repr

inductive EditError where
  | permanentType (typeId : String)
  | idTaken (id : String)
  | invalidId (id : String)
  | unknownType (typeId : String)
  | position (e : PositionError)
  | permanentNode (id : String)
  | unknownNode (id : String)
  | unknownPort (r : PortRef)
  | selfLoop (id : String)
  | orientation (c : Connection) (outputKind inputKind : PortKind)
  | families (c : Connection) (outputFamily inputFamily : AddressFamily)
  | flows (c : Connection) (outputFlow inputFlow : Flow)
  | occupied (c : Connection)
  deriving DecidableEq, Repr

namespace PositionError

def message : PositionError → String
  | .tooShort => "a position has two items"
  | .noItem n => toString n
  | .notAPair => "a position is a list"
  | .notANumber => "a position holds numbers"
  | .notNumeric text => s!"could not convert string to float: {Text.quote text}"
  | .tooLarge => "int too large to convert to float"

end PositionError

namespace EditError

def message : EditError → String
  | .permanentType typeId => s!"'{typeId}' exists once per graph and cannot be added"
  | .idTaken id => s!"Node id '{id}' is already in use"
  | .invalidId id => s!"Invalid node id '{id}'"
  | .unknownType typeId => (RegistryError.unknownType typeId).message
  | .position e => e.message
  | .permanentNode id => s!"Node '{id}' is permanent and cannot be removed"
  | .unknownNode id => s!"Unknown node '{id}'"
  | .unknownPort r => s!"Node '{r.node}' has no port '{r.port}'"
  | .selfLoop id => s!"Cannot connect node '{id}' to itself"
  | .orientation c outputKind inputKind =>
    "Connections run from an output to an input port; got " ++
      s!"{outputKind.name} '{c.output.toText}' -> {inputKind.name} '{c.input.toText}'"
  | .families c outputFamily inputFamily =>
    s!"Address family {outputFamily.name} of '{c.output.toText}' does not " ++
      s!"match {inputFamily.name} of '{c.input.toText}'"
  | .flows c outputFlow inputFlow =>
    s!"Flow direction {outputFlow.name} of '{c.output.toText}' does not " ++
      s!"match {inputFlow.name} of '{c.input.toText}'"
  | .occupied c =>
    s!"Output port '{c.output.toText}' is already connected to '{c.input.toText}'"

end EditError

namespace Position

def item (v : Value) (i : Nat) : Except PositionError Value :=
  match v with
  | .list items =>
    match items[i]? with
    | some item => .ok item
    | none => .error .tooShort
  | .map entries =>
    match entries.find? (Scalar.sameKey (.int i) ·.1) with
    | some (_, item) => .ok item
    | none => .error (.noItem i)
  | .scalar (.text s) =>
    match s.toList[i]? with
    | some c => .ok (.text (String.ofList [c]))
    | none => .error .tooShort
  | _ => .error .notAPair

def coordinate : Value → Except PositionError Binary64
  | .scalar (.float x) => .ok x
  | .scalar (.int n) => if (Binary64.ofInt n).isFinite then .ok (.ofInt n) else .error .tooLarge
  | .scalar (.bool b) => .ok (.ofBool b)
  | .scalar (.text s) =>
    match Binary64.ofText? s with
    | some x => .ok x
    | none => .error (.notNumeric s)
  | _ => .error .notANumber

def ofValue (v : Value) : Except PositionError Position := do
  let x ← coordinate (← item v 0)
  let y ← coordinate (← item v 1)
  return (x, y)

end Position

structure Drag where
  origin : PortRef
  kind : PortKind
  severed? : Option Connection := none
  deriving DecidableEq, Repr

namespace Graph

def generatedId (n : Nat) : String := "node-" ++ Text.decimalPadded 4 n

def freeNumber (g : Graph) : Nat → Nat → Nat
  | 0, n => n
  | tries + 1, n => if g.contains (generatedId n) then freeNumber g tries (n + 1) else n

/-- An id that may be given to a new node; a final line feed is let through. -/
def isGivenId (id : String) : Bool :=
  let cs := id.toList
  isNodeId cs || (cs.getLast? == some '\n' && isNodeId cs.dropLast)

def chooseId (g : Graph) : Option String → Except EditError (Graph × String)
  | none =>
    let n := g.freeNumber (g.nodes.length + 1) g.nextId
    .ok ({ g with nextId := n + 1 }, generatedId n)
  | some id =>
    if g.contains id then .error (.idTaken id)
    else if !isGivenId id then .error (.invalidId id)
    else .ok (g, id)

def newNode (r : Registry) (typeId id : String) (params : Params) (position : Value) :
    Except EditError Node := do
  let type ← match r.get? typeId with
    | some type => .ok type
    | none => .error (.unknownType typeId)
  let position ← (Position.ofValue position).mapError .position
  return { id, type, params, position }

/-- Adds a node at the end, under a generated id unless one is given. A generated id is used up even if
    the node is then refused. -/
def add (g : Graph) (r : Registry) (typeId : String) (id? : Option String := none)
    (params : Params := []) (position : Value := .list [.int 0, .int 0]) :
    Graph × Except EditError String :=
  if isPermanentType typeId then (g, .error (.permanentType typeId))
  else match g.chooseId id? with
    | .error e => (g, .error e)
    | .ok (g, id) =>
      match newNode r typeId id params position with
      | .error e => (g, .error e)
      | .ok n => (g.insert n, .ok id)

def requireNode (g : Graph) (id : String) : Except EditError Node :=
  match g.node? id with
  | some n => .ok n
  | none => .error (.unknownNode id)

def requirePort (g : Graph) (r : PortRef) : Except EditError Port := do
  let n ← g.requireNode r.node
  match n.type.port? r.port with
  | some p => return p
  | none => throw (.unknownPort r)

def remove (g : Graph) (id : String) : Except EditError Graph := do
  let _ ← g.requireNode id
  if isPermanentId id then throw (.permanentNode id)
  return g.without id

def obstacle? (g : Graph) (c : Connection) (output input : Port) : Option EditError :=
  if c.output.node == c.input.node then some (.selfLoop c.output.node)
  else if output.kind != .output || input.kind != .input then
    some (.orientation c output.kind input.kind)
  else if !output.family.compatible input.family then some (.families c output.family input.family)
  else if !output.flow.compatible input.flow then some (.flows c output.flow input.flow)
  else (g.target? c.output).map fun input => .occupied ⟨c.output, input⟩

def connect (g : Graph) (c : Connection) : Except EditError Graph := do
  let output ← g.requirePort c.output
  let input ← g.requirePort c.input
  match g.obstacle? c output input with
  | some e => throw e
  | none => return { g with connections := g.connections ++ [c] }

def disconnect (g : Graph) (output : PortRef) : Graph × Option Connection :=
  match g.target? output with
  | some input => (g.unplugged output, some ⟨output, input⟩)
  | none => (g, none)

def beginDrag (g : Graph) (r : PortRef) : Except EditError (Graph × Drag) := do
  let p ← g.requirePort r
  match p.kind with
  | .output =>
    let (g, severed?) := g.disconnect r
    return (g, ⟨r, .output, severed?⟩)
  | .input => return (g, ⟨r, .input, none⟩)

/-- Ends a drag at a port. Nothing happens when it comes from an input port to an output port that has
    a connection. -/
def endDrag (g : Graph) (d : Drag) (r : PortRef) : Except EditError (Graph × Option Connection) := do
  match d.kind with
  | .output =>
    let c : Connection := ⟨d.origin, r⟩
    return (← g.connect c, some c)
  | .input =>
    let p ← g.requirePort r
    if p.kind == .output && (g.target? r).isSome then return (g, none)
    let c : Connection := ⟨r, d.origin⟩
    return (← g.connect c, some c)

end Graph
end FilterGraph
