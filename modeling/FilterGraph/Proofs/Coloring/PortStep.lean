import FilterGraph.Coloring
import FilterGraph.Proofs.Graph.Ports

namespace FilterGraph

theorem NodeType.PortsDiffer.port?_of_mem {t : NodeType} (differ : t.PortsDiffer) {p : Port} (listed : p ∈ t.ports) :
    t.port? p.name = some p := by
  cases found : t.port? p.name with
  | none => exact absurd (beq_self_eq_true p.name) (List.find?_eq_none.mp found p listed)
  | some q =>
    have named := List.find?_some found
    rw [List.inj_on_of_nodup_map differ (List.mem_of_find?_eq_some found) listed (eq_of_beq named)]

namespace Graph

inductive PortStep (g : Graph) : PortRef → PortRef → Prop
  | wire {c : Connection} (member : c ∈ g.connections) : PortStep g c.output c.input
  | through {n : Node} {a b : PortRef} (member : n ∈ g.nodes) (input : a ∈ n.inputRefs) (output : b ∈ n.outputRefs) :
      PortStep g a b

theorem mem_ports {g : Graph} {ref : PortRef} : ref ∈ g.ports ↔ ∃ n ∈ g.nodes, ref ∈ n.refs := List.mem_flatMap

theorem inputRefs_node {n : Node} {ref : PortRef} (listed : ref ∈ n.inputRefs) : ref.node = n.id := by
  obtain ⟨p, -, rfl⟩ := List.mem_map.mp listed
  rfl

theorem outputRefs_subset (n : Node) : n.outputRefs ⊆ n.refs :=
  List.map_subset _ (List.filter_subset_self _)

theorem inputRefs_subset (n : Node) : n.inputRefs ⊆ n.refs :=
  List.map_subset _ (List.filter_subset_self _)

theorem port?_listed {g : Graph} {ref : PortRef} {p : Port} (found : g.port? ref = some p) :
    ∃ n, g.node? ref.node = some n ∧
      match p.kind with
      | .input => ref ∈ n.inputRefs
      | .output => ref ∈ n.outputRefs := by
  obtain ⟨n, node, named⟩ := port?_eq.mp found
  have same : n.ref p = ref := by
    have matched := List.find?_some named
    simp only [Node.ref, (node?_mem node).2, eq_of_beq matched]
  have listed := List.mem_of_find?_eq_some named
  refine ⟨n, node, ?_⟩
  split
  case h_1 kind => exact List.mem_map.mpr ⟨p, List.mem_filter.mpr ⟨listed, by simp [kind]⟩, same⟩
  case h_2 kind => exact List.mem_map.mpr ⟨p, List.mem_filter.mpr ⟨listed, by simp [kind]⟩, same⟩

theorem port?_mem_ports {g : Graph} {ref : PortRef} {p : Port} (found : g.port? ref = some p) : ref ∈ g.ports := by
  obtain ⟨n, node, listed⟩ := port?_listed found
  refine mem_ports.mpr ⟨n, (node?_mem node).1, ?_⟩
  split at listed
  · exact inputRefs_subset n listed
  · exact outputRefs_subset n listed

theorem Sound.step_mem_ports {r : Registry} {g : Graph} (sound : g.Sound r) {a b : PortRef} (step : g.PortStep a b) :
    a ∈ g.ports ∧ b ∈ g.ports := by
  obtain (@⟨c, member⟩ | ⟨member, input, output⟩) := step
  · obtain ⟨p, q, left, right, -⟩ := sound.connections c member
    exact ⟨port?_mem_ports left, port?_mem_ports right⟩
  · exact ⟨mem_ports.mpr ⟨_, member, inputRefs_subset _ input⟩, mem_ports.mpr ⟨_, member, outputRefs_subset _ output⟩⟩

section Sound

variable {r : Registry} {g : Graph} (sound : g.Sound r) (differ : g.PortsDiffer)

include sound differ

theorem Sound.port?_of_listed {n : Node} (member : n ∈ g.nodes) {p : Port} (listed : p ∈ n.type.ports) :
    g.port? (n.ref p) = some p :=
  port?_eq.mpr ⟨n, sound.node?_of_mem member, (differ n member).port?_of_mem listed⟩

theorem Sound.port?_isSome {ref : PortRef} (present : ref ∈ g.ports) : ∃ p, g.port? ref = some p := by
  obtain ⟨n, member, listed⟩ := mem_ports.mp present
  obtain ⟨p, declared, rfl⟩ := List.mem_map.mp listed
  exact ⟨p, sound.port?_of_listed differ member declared⟩

theorem Sound.mem_portsAfter {a b : PortRef} : b ∈ g.portsAfter a ↔ g.PortStep a b := by
  constructor
  · intro after
    unfold portsAfter at after
    split at after
    case h_2 => exact absurd after List.not_mem_nil
    case h_1 p found =>
      obtain ⟨n, node, listed⟩ := port?_listed found
      split at after
      case h_1 => exact .wire (target?_mem (Option.mem_toList.mp after))
      case h_2 kind =>
        rw [kind] at listed
        simp only [node, Option.map_some, Option.getD_some] at after
        exact .through (node?_mem node).1 listed after
  · rintro (@⟨c, member⟩ | ⟨member, input, output⟩)
    · obtain ⟨p, -, port, -, -, kind, -⟩ := sound.connections c member
      simp only [portsAfter, port, kind, target?_of_mem sound.outputs member, Option.toList_some, List.mem_singleton]
    · obtain ⟨p, listed, rfl⟩ := List.mem_map.mp input
      obtain ⟨declared, kind⟩ := List.mem_filter.mp listed
      have port := sound.port?_of_listed differ member declared
      simp only [portsAfter, port, eq_of_beq kind]
      simpa only [Node.ref, sound.node?_of_mem member, Option.map_some, Option.getD_some] using output

theorem Sound.mem_portsBefore {a b : PortRef} : a ∈ g.portsBefore b ↔ g.PortStep a b := by
  constructor
  · intro before
    unfold portsBefore at before
    split at before
    case h_2 => exact absurd before List.not_mem_nil
    case h_1 p found =>
      obtain ⟨n, node, listed⟩ := port?_listed found
      split at before
      case h_1 =>
        obtain ⟨c, entering, rfl⟩ := List.mem_map.mp before
        obtain ⟨member, input⟩ := List.mem_filter.mp entering
        exact eq_of_beq input ▸ .wire member
      case h_2 kind =>
        rw [kind] at listed
        simp only [node, Option.map_some, Option.getD_some] at before
        exact .through (node?_mem node).1 before listed
  · rintro (@⟨c, member⟩ | ⟨member, input, output⟩)
    · obtain ⟨-, q, -, port, -, -, kind, -⟩ := sound.connections c member
      simp only [portsBefore, port, kind]
      exact List.mem_map.mpr ⟨c, List.mem_filter.mpr ⟨member, beq_self_eq_true _⟩, rfl⟩
    · obtain ⟨p, listed, rfl⟩ := List.mem_map.mp output
      obtain ⟨declared, kind⟩ := List.mem_filter.mp listed
      have port := sound.port?_of_listed differ member declared
      simp only [portsBefore, port, eq_of_beq kind]
      simpa only [Node.ref, sound.node?_of_mem member, Option.map_some, Option.getD_some] using input

end Sound

end Graph
end FilterGraph
