import FilterGraph.Manifest.NodeType
import FilterGraph.Proofs.Packet.Execution
import FilterGraph.Script

namespace FilterGraph

/-- The node types whose rules are known: the built-in ones, and those of manifests without setup lines. -/
inductive Kind where
  | builtin (b : Builtin)
  | manifest (extension name : String) (spec : NodeSpec) (plain : spec.setup = [])

namespace Kind

def nodeType : Kind → NodeType
  | .builtin b => b.nodeType
  | .manifest extension name spec _ => spec.nodeType extension name

def isNat : Kind → Bool
  | .builtin (.nat _) => true
  | _ => false

end Kind

inductive Departure where
  | port (name : String)
  | decided (d : Decision)
  deriving DecidableEq, Repr

def Builtin.filterExpression (criterion : Criterion) (node : NodeView) : Except EmitError String := do
  let values ← (Builtin.filter criterion).resolve node
  (criterion.expression ((values.get? criterion.param.name).getD "")).mapError fun cause =>
    .refused ⟨some node.id, cause⟩

def AddressList.lookup (chain selector : String) (isV4 : Bool) : String :=
  let keyword := familyKeyword isV4
  let set := s!"{chain}_{keyword}"
  s!"{keyword} {selector} @{set}"

def Builtin.listExpressions (node : NodeView) : Except EmitError (List String) := do
  let values ← Builtin.addressList.resolve node
  let field := (values.get? "field").getD ""
  match Builtin.fieldSelector? field with
  | none => throw (.refused ⟨some node.id, .unknownField field⟩)
  | some selector =>
    let chain := chainName node.id
    return [AddressList.lookup chain selector true, AddressList.lookup chain selector false]

def NodeSpec.outputCondition (node : NodeView) (values : Entries String String) (output : String × PortSpec) :
    Except EmitError (String × String) := do
  return (output.1, Text.trim (← render node values output.2.rule))

def NodeSpec.conditions (s : NodeSpec) (typeId folder : String) (node : NodeView) :
    Except EmitError (List (String × String)) := do
  let values ← s.safeValues typeId node
  let values := bindings values node.id (chainName node.id) s!"{folder}/{node.id}"
  s.outputs.mapM (outputCondition node values)

namespace Packet

variable (p : Packet)

def builtinDeparture (node : NodeView) : Builtin → Except EmitError Departure
  | .source => .ok (.port "out")
  | .localhost => .ok (.decided .accept)
  | .filter criterion => do
    let expression ← Builtin.filterExpression criterion node
    return .port (if p.holds expression then "match" else "non-match")
  | .addressList => do
    let expressions ← Builtin.listExpressions node
    return .port (if expressions.any p.holds then "match" else "non-match")
  | .familySplitter => .ok (.port p.family.name)
  | .nat _ => .ok (.port "out")
  | .drop => .ok (.decided .drop)
  | .accept => .ok (.decided .accept)

def firstOutput (conditions : List (String × String)) : Departure :=
  match conditions.find? fun (_, condition) => condition.isEmpty || p.holds condition with
  | some (name, _) => .port name
  | none => .decided .accept

theorem firstOutput_cons (name condition : String) (rest : List (String × String)) :
    p.firstOutput ((name, condition) :: rest) =
      if condition.isEmpty || p.holds condition then .port name else p.firstOutput rest := by
  simp only [firstOutput, List.find?_cons]
  cases condition.isEmpty || p.holds condition <;> rfl

def departure (folder : String) (node : NodeView) : Kind → Except EmitError Departure
  | .builtin b => p.builtinDeparture node b
  | .manifest extension name spec _ => (spec.conditions s!"{extension}:{name}" folder node).map p.firstOutput

/-- The packet walks through the listed nodes, from the given one to the decision; where a port is not
    connected it is accepted. -/
inductive Walks (g : Graph) (kind : String → Kind) (folder : String) : String → List String → Decision → Prop
  | decided {id : String} {n : Node} {d : Decision} (found : g.node? id = some n)
      (departs : p.departure folder n.view (kind id) = .ok (.decided d)) : Walks g kind folder id [id] d
  | unconnected {id port : String} {n : Node} (found : g.node? id = some n)
      (departs : p.departure folder n.view (kind id) = .ok (.port port)) (free : g.target? ⟨id, port⟩ = none) :
      Walks g kind folder id [id] .accept
  | moved {id port : String} {n : Node} {input : PortRef} {trace : List String} {d : Decision}
      (found : g.node? id = some n) (departs : p.departure folder n.view (kind id) = .ok (.port port))
      (connected : g.target? ⟨id, port⟩ = some input) (later : Walks g kind folder input.node trace d) :
      Walks g kind folder id (id :: trace) d

theorem Walks.found {p : Packet} {g : Graph} {kind : String → Kind} {folder id : String} {trace : List String}
    {d : Decision} (walk : p.Walks g kind folder id trace d) : ∀ other ∈ trace, ∃ n, g.node? other = some n := by
  induction walk with
  | decided here | unconnected here =>
    intro other member
    rw [List.mem_singleton.mp member]
    exact ⟨_, here⟩
  | moved here _ _ _ ih =>
    intro other member
    rcases List.mem_cons.mp member with rfl | later
    · exact ⟨_, here⟩
    · exact ih other later

theorem Walks.unique {p : Packet} {g : Graph} {kind : String → Kind} {folder id : String}
    {trace path : List String} {d e : Decision} (left : p.Walks g kind folder id trace d)
    (right : p.Walks g kind folder id path e) : trace = path ∧ d = e := by
  induction left generalizing path e with
  | decided found departs =>
    cases right with
    | decided same also =>
      cases found.symm.trans same
      cases departs.symm.trans also
      exact ⟨rfl, rfl⟩
    | unconnected same also | moved same also =>
      cases found.symm.trans same
      cases departs.symm.trans also
  | unconnected found departs free =>
    cases right with
    | decided same also =>
      cases found.symm.trans same
      cases departs.symm.trans also
    | unconnected => exact ⟨rfl, rfl⟩
    | moved same also connected =>
      cases found.symm.trans same
      cases departs.symm.trans also
      cases free.symm.trans connected
  | moved found departs connected _ ih =>
    cases right with
    | decided same also =>
      cases found.symm.trans same
      cases departs.symm.trans also
    | unconnected same also free =>
      cases found.symm.trans same
      cases departs.symm.trans also
      cases connected.symm.trans free
    | moved same also other later =>
      cases found.symm.trans same
      cases departs.symm.trans also
      cases connected.symm.trans other
      obtain ⟨rfl, rfl⟩ := ih later
      exact ⟨rfl, rfl⟩

end Packet
end FilterGraph
