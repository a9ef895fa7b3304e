import FilterGraph.Proofs.Graph.Invariant
import FilterGraph.Proofs.Graph.Opening

namespace FilterGraph

namespace Registry

theorem load_get? {r next : Registry} {b : Bundle} {isNew : Bool} (loading : r.load b = .ok (next, isNew))
    {typeId : String} {t : NodeType} (known : r.get? typeId = some t) : next.get? typeId = some t := by
  obtain ⟨more, types⟩ := load_types loading
  unfold get? at known ⊢
  rw [types, List.find?_append, known, Option.some_or]

end Registry

namespace Graph

inductive Authored : Registry → Graph → Prop
  | new {r : Registry} (built : r.Built) : Authored r .new
  | opened {r : Registry} {loader? : Option Loader} {t : FileTree} {s : Snapshot} {g : Graph} (built : r.Built)
      (valid : s.Valid) (opening : (openSnapshot r loader? t s).outcome = .ok g) :
      Authored (openSnapshot r loader? t s).registry g
  | loaded {r next : Registry} {g : Graph} {b : Bundle} {isNew : Bool} (authored : Authored r g)
      (loading : r.load b = .ok (next, isNew)) : Authored next g
  | edited {r : Registry} {g : Graph} (authored : Authored r g) (e : Edit) : Authored r (g.edit r e).1
  | written {r : Registry} {g : Graph} (authored : Authored r g) (id name : String) (value : Value) :
      Authored r (g.setParam id name value)
  | annotated {r : Registry} {g : Graph} (authored : Authored r g) (metadata : Value) :
      Authored r { g with metadata }

theorem Authored.edits {r : Registry} {g : Graph} (authored : Authored r g) (es : List Edit) :
    Authored r (g.edits r es) := by
  induction es generalizing g with
  | nil => exact authored
  | cons e rest ih => exact ih (authored.edited e)

section SetParam

variable (g : Graph) (id name : String) (value : Value)

theorem nodeIds_setParam : (g.setParam id name value).nodeIds = g.nodeIds := by
  simp only [nodeIds, setParam, List.map_map]
  apply List.map_congr_left
  intro n _
  simp only [Function.comp_apply]
  split <;> rfl

theorem mem_setParam {m : Node} (member : m ∈ (g.setParam id name value).nodes) :
    ∃ n ∈ g.nodes, m.id = n.id ∧ m.type = n.type := by
  obtain ⟨n, old, rfl⟩ := List.mem_map.mp member
  refine ⟨n, old, ?_⟩
  split <;> exact ⟨rfl, rfl⟩

theorem port?_setParam (ref : PortRef) : (g.setParam id name value).port? ref = g.port? ref := by
  simp only [port?, node?, setParam, List.find?_map]
  have same : ((fun n : Node => n.id == ref.node) ∘ fun n =>
      if n.id == id then { n with params := Entries.set name value n.params } else n) =
        fun n => n.id == ref.node := by
    funext n
    simp only [Function.comp_apply]
    split <;> rfl
  rw [same]
  cases g.nodes.find? fun n => n.id == ref.node with
  | none => rfl
  | some n =>
    simp only [Option.map_some, Option.bind_some]
    split <;> rfl

end SetParam

theorem WellFormed.setParam {r : Registry} {g : Graph} (wf : g.WellFormed r) (id name : String) (value : Value) :
    (g.setParam id name value).WellFormed r := by
  have ids := g.nodeIds_setParam id name value
  constructor
  case source => exact ids ▸ wf.source
  case localhost => exact ids ▸ wf.localhost
  case toSound =>
    constructor
    case ids => exact ids ▸ wf.ids
    case types =>
      intro m member
      obtain ⟨n, old, -, type⟩ := g.mem_setParam id name value member
      exact type ▸ wf.types n old
    case paired =>
      intro m member
      obtain ⟨n, old, same, type⟩ := g.mem_setParam id name value member
      exact same ▸ type ▸ wf.paired n old
    case connections =>
      intro c member
      have joins := wf.connections c member
      unfold Joins at joins ⊢
      rwa [port?_setParam, port?_setParam]
    case outputs => exact wf.outputs
    case extensions =>
      intro m member id brought
      obtain ⟨n, old, -, type⟩ := g.mem_setParam _ name value member
      exact wf.extensions n old id (type ▸ brought)

theorem WellFormed.loaded {r next : Registry} {g : Graph} {b : Bundle} {isNew : Bool} (wf : g.WellFormed r)
    (loading : r.load b = .ok (next, isNew)) : g.WellFormed next :=
  { wf with types := fun n member => Registry.load_get? loading (wf.types n member) }

theorem openSnapshot_ok {r : Registry} {loader? : Option Loader} {t : FileTree} {s : Snapshot} {g : Graph}
    (opening : (openSnapshot r loader? t s).outcome = .ok g) :
    (r.require loader? t s.extensions).failure? = none ∧
      ofSnapshot (openSnapshot r loader? t s).registry s = .ok g := by
  unfold openSnapshot at opening ⊢
  cases failed : (r.require loader? t s.extensions).failure? with
  | some e => simp only [failed] at opening; cases opening
  | none =>
    simp only [failed] at opening
    exact ⟨rfl, opening⟩

/-- The registry grows by bundles only, and the graph is well formed over it. -/
theorem Authored.well_formed {r : Registry} {g : Graph} (authored : Authored r g) : r.Built ∧ g.WellFormed r := by
  induction authored with
  | new built => exact ⟨built, new_well_formed built⟩
  | opened built valid opening =>
    exact ⟨Registry.require_built built _ _ _, ofSnapshot_well_formed valid (openSnapshot_ok opening).2⟩
  | loaded _ loading ih => exact ⟨.loaded ih.1 loading, ih.2.loaded loading⟩
  | edited _ e ih => exact ⟨ih.1, ih.2.change (edit_change _ _ e)⟩
  | written _ id name value ih => exact ⟨ih.1, ih.2.setParam id name value⟩
  | annotated _ metadata ih => exact ⟨ih.1, { ih.2 with }⟩

end Graph
end FilterGraph
