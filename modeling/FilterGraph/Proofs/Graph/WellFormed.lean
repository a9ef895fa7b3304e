import FilterGraph.Graph.Edit
import Mathlib.Data.List.Nodup

namespace FilterGraph

theorem Registry.get?_typeId {r : Registry} {typeId : String} {t : NodeType}
    (found : r.get? typeId = some t) : t.typeId = typeId := by
  have matched := List.find?_some found
  exact eq_of_beq matched

namespace Graph

/-- A connection leads from an output port to an input port of another node, and the two ports fit. -/
def Joins (g : Graph) (c : Connection) : Prop :=
  ∃ output input, g.port? c.output = some output ∧ g.port? c.input = some input ∧
    c.output.node ≠ c.input.node ∧ output.kind = .output ∧ input.kind = .input ∧
    output.family.compatible input.family = true ∧ output.flow.compatible input.flow = true

def Paired (id typeId : String) : Prop :=
  (typeId = sourceType ↔ id = sourceId) ∧ (typeId = localhostType ↔ id = localhostId)

/-- What holds of a graph at all times, also while it is built from a document. -/
structure Sound (r : Registry) (g : Graph) : Prop where
  ids : g.nodeIds.Nodup
  types : ∀ n ∈ g.nodes, r.get? n.type.typeId = some n.type
  paired : ∀ n ∈ g.nodes, Paired n.id n.type.typeId
  connections : ∀ c ∈ g.connections, g.Joins c
  outputs : (g.connections.map (·.output)).Nodup
  extensions : ∀ n ∈ g.nodes, ∀ id, n.type.extension? = some id → id ∈ g.extensions

structure WellFormed (r : Registry) (g : Graph) : Prop extends Sound r g where
  source : sourceId ∈ g.nodeIds
  localhost : localhostId ∈ g.nodeIds

theorem contains_iff {g : Graph} {id : String} : g.contains id = true ↔ id ∈ g.nodeIds := by
  simp only [contains, List.contains_eq_mem, decide_eq_true_eq]

theorem mem_nodeIds {g : Graph} {id : String} : id ∈ g.nodeIds ↔ ∃ n ∈ g.nodes, n.id = id := by
  simp only [nodeIds, List.mem_map]

theorem node?_mem {g : Graph} {id : String} {n : Node} (found : g.node? id = some n) :
    n ∈ g.nodes ∧ n.id = id := by
  have matched := List.find?_some found
  exact ⟨List.mem_of_find?_eq_some found, eq_of_beq matched⟩

theorem node?_eq_none {g : Graph} {id : String} : g.node? id = none ↔ id ∉ g.nodeIds := by
  simp only [node?, List.find?_eq_none, mem_nodeIds, beq_iff_eq, not_exists, not_and]

theorem node?_isSome {g : Graph} {id : String} (present : id ∈ g.nodeIds) : ∃ n, g.node? id = some n := by
  cases found : g.node? id with
  | none => exact absurd present (node?_eq_none.mp found)
  | some n => exact ⟨n, rfl⟩

theorem port?_eq {g : Graph} {ref : PortRef} {p : Port} :
    g.port? ref = some p ↔ ∃ n, g.node? ref.node = some n ∧ n.type.port? ref.port = some p := by
  simp only [port?, Option.bind_eq_some_iff]

theorem Joins.output_mem {g : Graph} {c : Connection} (joins : g.Joins c) : c.output.node ∈ g.nodeIds := by
  obtain ⟨_, _, output, -⟩ := joins
  obtain ⟨n, found, -⟩ := port?_eq.mp output
  exact mem_nodeIds.mpr ⟨n, node?_mem found⟩

theorem Joins.input_mem {g : Graph} {c : Connection} (joins : g.Joins c) : c.input.node ∈ g.nodeIds := by
  obtain ⟨_, _, -, input, -⟩ := joins
  obtain ⟨n, found, -⟩ := port?_eq.mp input
  exact mem_nodeIds.mpr ⟨n, node?_mem found⟩

theorem Joins.transfer {g h : Graph} {c : Connection} (joins : g.Joins c)
    (output : h.node? c.output.node = g.node? c.output.node)
    (input : h.node? c.input.node = g.node? c.input.node) : h.Joins c := by
  unfold Joins port? at joins ⊢
  rwa [output, input]

theorem target?_eq_none {g : Graph} {ref : PortRef} :
    g.target? ref = none ↔ ref ∉ g.connections.map (·.output) := by
  simp only [target?, Option.map_eq_none_iff, List.find?_eq_none, beq_iff_eq, List.mem_map,
    not_exists, not_and]

theorem target?_mem {g : Graph} {output input : PortRef} (found : g.target? output = some input) :
    (⟨output, input⟩ : Connection) ∈ g.connections := by
  obtain ⟨c, first, same⟩ := Option.map_eq_some_iff.mp found
  have matched := List.find?_some first
  have member := List.mem_of_find?_eq_some first
  rw [← eq_of_beq matched, ← same]
  exact member

theorem target?_of_mem {g : Graph} (outputs : (g.connections.map (·.output)).Nodup) {c : Connection}
    (member : c ∈ g.connections) : g.target? c.output = some c.input := by
  cases found : g.target? c.output with
  | none => exact absurd (List.mem_map_of_mem member) (target?_eq_none.mp found)
  | some input =>
    have same := List.inj_on_of_nodup_map outputs (target?_mem found) member rfl
    rw [← same]

theorem target?_eq_some {g : Graph} (outputs : (g.connections.map (·.output)).Nodup) {output input : PortRef} :
    g.target? output = some input ↔ (⟨output, input⟩ : Connection) ∈ g.connections :=
  ⟨target?_mem, fun member => target?_of_mem outputs member⟩

theorem Sound.node?_of_mem {r : Registry} {g : Graph} (sound : g.Sound r) {n : Node} (member : n ∈ g.nodes) :
    g.node? n.id = some n := by
  obtain ⟨m, found⟩ := node?_isSome (mem_nodeIds.mpr ⟨n, member, rfl⟩)
  obtain ⟨present, id⟩ := node?_mem found
  rw [found, List.inj_on_of_nodup_map sound.ids present member id]

theorem node?_insert {g : Graph} {n : Node} {id : String} (other : id ∈ g.nodeIds) :
    (g.insert n).node? id = g.node? id := by
  obtain ⟨m, found⟩ := node?_isSome other
  simp only [node?, insert, List.find?_append] at found ⊢
  rw [found]
  rfl

theorem nodeIds_insert (g : Graph) (n : Node) : (g.insert n).nodeIds = g.nodeIds ++ [n.id] := by
  simp only [nodeIds, insert, List.map_append, List.map_cons, List.map_nil]

theorem extensions_insert {g : Graph} {n : Node} {id : String} (known : id ∈ g.extensions) :
    id ∈ (g.insert n).extensions := by
  simp only [insert]
  split
  · split
    · exact known
    · exact List.mem_append_left _ known
  · exact known

theorem extension_insert {g : Graph} {n : Node} {id : String} (brought : n.type.extension? = some id) :
    id ∈ (g.insert n).extensions := by
  simp only [insert, brought]
  split
  · rename_i known
    exact List.mem_of_elem_eq_true known
  · exact List.mem_append_right _ (List.mem_singleton.mpr rfl)

theorem Sound.insert {r : Registry} {g : Graph} (sound : g.Sound r) {n : Node} (fresh : n.id ∉ g.nodeIds)
    (known : r.get? n.type.typeId = some n.type) (pair : Paired n.id n.type.typeId) :
    (g.insert n).Sound r := by
  have cases_mem : ∀ m ∈ (g.insert n).nodes, m ∈ g.nodes ∨ m = n := by
    intro m member
    rcases List.mem_append.mp member with old | new
    · exact Or.inl old
    · exact Or.inr (List.mem_singleton.mp new)
  constructor
  case ids =>
    rw [nodeIds_insert, List.nodup_append]
    refine ⟨sound.ids, List.nodup_singleton _, ?_⟩
    intro a member b single same
    rw [List.mem_singleton.mp single] at same
    exact fresh (same ▸ member)
  case types =>
    intro m member
    rcases cases_mem m member with old | rfl
    · exact sound.types m old
    · exact known
  case paired =>
    intro m member
    rcases cases_mem m member with old | rfl
    · exact sound.paired m old
    · exact pair
  case connections =>
    intro c member
    have joins := sound.connections c member
    exact joins.transfer (node?_insert joins.output_mem) (node?_insert joins.input_mem)
  case outputs => exact sound.outputs
  case extensions =>
    intro m member id brought
    rcases cases_mem m member with old | rfl
    · exact extensions_insert (sound.extensions m old id brought)
    · exact extension_insert brought

theorem WellFormed.insert {r : Registry} {g : Graph} (wf : g.WellFormed r) {n : Node}
    (fresh : n.id ∉ g.nodeIds) (known : r.get? n.type.typeId = some n.type)
    (free : isPermanentType n.type.typeId = false) : (g.insert n).WellFormed r := by
  have types : n.type.typeId ≠ sourceType ∧ n.type.typeId ≠ localhostType := by
    simpa [isPermanentType] using free
  have notSource : n.id ≠ sourceId := fun same => fresh (same ▸ wf.source)
  have notLocalhost : n.id ≠ localhostId := fun same => fresh (same ▸ wf.localhost)
  have pair : Paired n.id n.type.typeId :=
    ⟨iff_of_false types.1 notSource, iff_of_false types.2 notLocalhost⟩
  refine ⟨wf.toSound.insert fresh known pair, ?_, ?_⟩
  · rw [nodeIds_insert]
    exact List.mem_append_left _ wf.source
  · rw [nodeIds_insert]
    exact List.mem_append_left _ wf.localhost

theorem node?_without {g : Graph} {removed id : String} (other : id ≠ removed) :
    (g.without removed).node? id = g.node? id := by
  simp only [node?, without, List.find?_filter]
  congr 1
  funext n
  by_cases same : n.id = id
  · subst same
    simp [other]
  · simp [same]

theorem mem_nodeIds_without {g : Graph} {removed id : String} :
    id ∈ (g.without removed).nodeIds ↔ id ∈ g.nodeIds ∧ id ≠ removed := by
  simp only [mem_nodeIds, without, List.mem_filter, bne_iff_ne, ne_eq]
  constructor
  · rintro ⟨n, ⟨member, other⟩, rfl⟩
    exact ⟨⟨n, member, rfl⟩, other⟩
  · rintro ⟨⟨n, member, rfl⟩, other⟩
    exact ⟨n, ⟨member, other⟩, rfl⟩

theorem Sound.without {r : Registry} {g : Graph} (sound : g.Sound r) (id : String) :
    (g.without id).Sound r := by
  have node_mem : ∀ n ∈ (g.without id).nodes, n ∈ g.nodes := fun _ member => (List.mem_filter.mp member).1
  constructor
  case ids =>
    have kept : (g.without id).nodeIds.Sublist g.nodeIds := List.filter_sublist.map _
    exact kept.nodup sound.ids
  case types => exact fun n member => sound.types n (node_mem n member)
  case paired => exact fun n member => sound.paired n (node_mem n member)
  case connections =>
    intro c member
    obtain ⟨old, apart⟩ := List.mem_filter.mp member
    simp only [Bool.and_eq_true, bne_iff_ne, ne_eq] at apart
    exact (sound.connections c old).transfer (node?_without apart.1) (node?_without apart.2)
  case outputs =>
    exact (List.filter_sublist.map _).nodup sound.outputs
  case extensions => exact fun n member => sound.extensions n (node_mem n member)

theorem WellFormed.without {r : Registry} {g : Graph} (wf : g.WellFormed r) {id : String}
    (free : isPermanentId id = false) : (g.without id).WellFormed r := by
  have ids : id ≠ sourceId ∧ id ≠ localhostId := by simpa [isPermanentId] using free
  exact ⟨wf.toSound.without id, mem_nodeIds_without.mpr ⟨wf.source, ids.1.symm⟩,
    mem_nodeIds_without.mpr ⟨wf.localhost, ids.2.symm⟩⟩

theorem WellFormed.sublist {r : Registry} {g : Graph} (wf : g.WellFormed r) {kept : List Connection}
    (fewer : kept.Sublist g.connections) : ({ g with connections := kept } : Graph).WellFormed r :=
  { wf with
    connections := fun c member => (wf.connections c (fewer.subset member)).transfer rfl rfl
    outputs := (fewer.map _).nodup wf.outputs }

theorem WellFormed.unplugged {r : Registry} {g : Graph} (wf : g.WellFormed r) (output : PortRef) :
    (g.unplugged output).WellFormed r := wf.sublist List.filter_sublist

theorem Sound.plugged {r : Registry} {g : Graph} (sound : g.Sound r) {c : Connection} (joins : g.Joins c)
    (free : g.target? c.output = none) :
    ({ g with connections := g.connections ++ [c] } : Graph).Sound r :=
  { sound with
    connections := by
      intro d member
      rcases List.mem_append.mp member with old | new
      · exact (sound.connections d old).transfer rfl rfl
      · rw [List.mem_singleton.mp new]
        exact joins.transfer rfl rfl
    outputs := by
      rw [List.map_append, List.nodup_append]
      refine ⟨sound.outputs, List.nodup_singleton _, ?_⟩
      intro a member b single same
      have new : a = c.output := same.trans (List.mem_singleton.mp single)
      exact target?_eq_none.mp free (new ▸ member) }

end Graph
end FilterGraph
