import FilterGraph.Proofs.Graph.Invariant
import Mathlib.Logic.Relation

namespace FilterGraph.Graph

def Follows (g : Graph) (a b : String) : Prop :=
  ∃ c ∈ g.connections, c.output.node = a ∧ c.input.node = b

def Reaches (g : Graph) : String → String → Prop := Relation.ReflTransGen g.Follows

def Acyclic (g : Graph) : Prop := ∀ id, ¬ Relation.TransGen g.Follows id id

theorem outgoing_eq {g : Graph} {id : String} {n : Node} (found : g.node? id = some n) :
    g.outgoing id = g.outgoingOf n := by
  simp only [outgoing, found, Option.map_some, Option.getD_some]

theorem mem_outgoingOf {g : Graph} {n : Node} {c : Connection} :
    c ∈ g.outgoingOf n ↔ c.output ∈ n.outputRefs ∧ g.target? c.output = some c.input := by
  simp only [outgoingOf, List.mem_filterMap, Option.map_eq_some_iff]
  constructor
  · rintro ⟨ref, listed, input, target, rfl⟩
    exact ⟨listed, target⟩
  · rintro ⟨listed, target⟩
    exact ⟨c.output, listed, c.input, target, rfl⟩

theorem outputRefs_node {n : Node} {ref : PortRef} (listed : ref ∈ n.outputRefs) : ref.node = n.id := by
  obtain ⟨p, -, rfl⟩ := List.mem_map.mp listed
  rfl

theorem outgoing_sound {g : Graph} {id : String} {c : Connection} (leaving : c ∈ g.outgoing id) :
    c ∈ g.connections ∧ c.output.node = id := by
  cases found : g.node? id with
  | none =>
    simp only [outgoing, found] at leaving
    exact absurd leaving List.not_mem_nil
  | some n =>
    rw [outgoing_eq found] at leaving
    obtain ⟨listed, target⟩ := mem_outgoingOf.mp leaving
    exact ⟨target?_mem target, (outputRefs_node listed).trans (node?_mem found).2⟩

theorem Joins.output_listed {g : Graph} {c : Connection} (joins : g.Joins c) {n : Node}
    (found : g.node? c.output.node = some n) : c.output ∈ n.outputRefs := by
  obtain ⟨output, _, port, -, -, kind, -⟩ := joins
  obtain ⟨m, same, named⟩ := port?_eq.mp port
  cases found.symm.trans same
  have matched := List.find?_some named
  have member : output ∈ n.type.outputs :=
    List.mem_filter.mpr ⟨List.mem_of_find?_eq_some named, by simp [kind]⟩
  refine List.mem_map.mpr ⟨output, member, ?_⟩
  simp only [Node.ref, (node?_mem found).2, eq_of_beq matched]

theorem Sound.mem_outgoing {r : Registry} {g : Graph} (sound : g.Sound r) {id : String} {c : Connection} :
    c ∈ g.outgoing id ↔ c ∈ g.connections ∧ c.output.node = id := by
  constructor
  · exact outgoing_sound
  · rintro ⟨member, rfl⟩
    have joins := sound.connections c member
    obtain ⟨n, found⟩ := node?_isSome joins.output_mem
    rw [outgoing_eq found]
    exact mem_outgoingOf.mpr ⟨joins.output_listed found, target?_of_mem sound.outputs member⟩

theorem Sound.mem_successors {r : Registry} {g : Graph} (sound : g.Sound r) {a b : String} :
    b ∈ g.successors a ↔ g.Follows a b := by
  simp only [successors, List.mem_map, sound.mem_outgoing, Follows, and_assoc]

theorem Sound.follows_mem {r : Registry} {g : Graph} (sound : g.Sound r) {a b : String} (step : g.Follows a b) :
    a ∈ g.nodeIds ∧ b ∈ g.nodeIds := by
  obtain ⟨c, member, rfl, rfl⟩ := step
  exact ⟨(sound.connections c member).output_mem, (sound.connections c member).input_mem⟩

theorem Sound.reaches_mem {r : Registry} {g : Graph} (sound : g.Sound r) {a b : String} (start : a ∈ g.nodeIds)
    (way : g.Reaches a b) : b ∈ g.nodeIds := by
  cases way with
  | refl => exact start
  | tail _ last => exact (sound.follows_mem last).2

theorem WellFormed.source_node {r : Registry} {g : Graph} (built : r.Built) (wf : g.WellFormed r) :
    ∃ n, g.node? sourceId = some n ∧ n.type = Builtin.source.nodeType := by
  obtain ⟨n, found⟩ := node?_isSome wf.source
  obtain ⟨member, id⟩ := node?_mem found
  have type := (wf.paired n member).1.mpr id
  have known := wf.types n member
  rw [type] at known
  exact ⟨n, found, Option.some.inj (known.symm.trans (built.get?_builtin .source))⟩

theorem WellFormed.localhost_node {r : Registry} {g : Graph} (built : r.Built) (wf : g.WellFormed r) :
    ∃ n, g.node? localhostId = some n ∧ n.type = Builtin.localhost.nodeType := by
  obtain ⟨n, found⟩ := node?_isSome wf.localhost
  obtain ⟨member, id⟩ := node?_mem found
  have type := (wf.paired n member).2.mpr id
  have known := wf.types n member
  rw [type] at known
  exact ⟨n, found, Option.some.inj (known.symm.trans (built.get?_builtin .localhost))⟩

theorem WellFormed.localhost_terminal {r : Registry} {g : Graph} (built : r.Built) (wf : g.WellFormed r)
    (b : String) : ¬ g.Follows localhostId b := by
  rintro ⟨c, member, output, -⟩
  obtain ⟨n, found, type⟩ := wf.localhost_node built
  have listed := (wf.connections c member).output_listed (output ▸ found)
  simp only [Node.outputRefs, type] at listed
  exact absurd listed List.not_mem_nil

theorem WellFormed.source_initial {r : Registry} {g : Graph} (built : r.Built) (wf : g.WellFormed r)
    (a : String) : ¬ g.Follows a sourceId := by
  rintro ⟨c, member, -, input⟩
  obtain ⟨n, found, type⟩ := wf.source_node built
  obtain ⟨_, q, -, port, -, -, kind, -⟩ := wf.connections c member
  obtain ⟨m, same, named⟩ := port?_eq.mp port
  rw [input, found] at same
  cases same
  have listed := List.mem_of_find?_eq_some named
  rw [type] at listed
  rw [List.mem_singleton.mp listed] at kind
  cases kind

end FilterGraph.Graph
