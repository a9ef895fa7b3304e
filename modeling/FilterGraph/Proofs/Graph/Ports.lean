import FilterGraph.Proofs.Graph.Path
import Mathlib.Data.List.Nodup
import Mathlib.Data.List.Lattice

namespace FilterGraph

def NodeType.PortsDiffer (t : NodeType) : Prop := (t.ports.map (·.name)).Nodup

def Registry.PortsDiffer (r : Registry) : Prop := ∀ t ∈ r.types, t.PortsDiffer

theorem Registry.builtin_portsDiffer : Registry.builtin.PortsDiffer := by
  unfold Registry.PortsDiffer NodeType.PortsDiffer
  decide

namespace Graph

def PortsDiffer (g : Graph) : Prop := ∀ n ∈ g.nodes, n.type.PortsDiffer

theorem WellFormed.portsDiffer {r : Registry} {g : Graph} (wf : g.WellFormed r) (differ : r.PortsDiffer) :
    g.PortsDiffer :=
  fun n member => differ _ (List.mem_of_find?_eq_some (wf.types n member))

theorem outputRefs_nodup {n : Node} (differ : n.type.PortsDiffer) : n.outputRefs.Nodup := by
  have named : (n.type.outputs.map (·.name)).Nodup := (List.filter_sublist.map _).nodup differ
  refine List.Nodup.of_map (·.port) ?_
  rwa [Node.outputRefs, List.map_map]

theorem outgoingOf_outputs (g : Graph) (n : Node) : ((g.outgoingOf n).map (·.output)).Sublist n.outputRefs := by
  unfold outgoingOf
  induction n.outputRefs with
  | nil => exact .slnil
  | cons ref rest ih =>
    rw [List.filterMap_cons]
    cases g.target? ref with
    | none => exact ih.cons ref
    | some input => exact ih.cons_cons ref

theorem outgoing_nodup {g : Graph} (differ : g.PortsDiffer) (id : String) : (g.outgoing id).Nodup := by
  cases found : g.node? id with
  | none =>
    rw [outgoing, found]
    exact List.nodup_nil
  | some n =>
    rw [outgoing_eq found]
    have refs := outputRefs_nodup (differ n (node?_mem found).1)
    exact List.Nodup.of_map _ ((g.outgoingOf_outputs n).nodup refs)

theorem Sound.connections_nodup {r : Registry} {g : Graph} (sound : g.Sound r) : g.connections.Nodup :=
  List.Nodup.of_map _ sound.outputs

theorem Sound.flatMap_outgoing {r : Registry} {g : Graph} (sound : g.Sound r) (differ : g.PortsDiffer)
    {ids : List String} (distinct : ids.Nodup) :
    (ids.flatMap g.outgoing).Perm (g.connections.filter fun c => ids.contains c.output.node) := by
  have sent : (ids.flatMap g.outgoing).Nodup := by
    refine List.nodup_flatMap.mpr ⟨fun id _ => outgoing_nodup differ id, ?_⟩
    refine distinct.imp ?_
    intro a b apart c left right
    exact apart ((outgoing_sound left).2.symm.trans (outgoing_sound right).2)
  refine (List.perm_ext_iff_of_nodup sent (sound.connections_nodup.filter _)).mpr ?_
  intro c
  simp only [List.mem_flatMap, List.mem_filter, List.contains_iff_mem, sound.mem_outgoing]
  constructor
  · rintro ⟨id, listed, member, rfl⟩
    exact ⟨member, listed⟩
  · rintro ⟨member, listed⟩
    exact ⟨_, listed, member, rfl⟩

end Graph
end FilterGraph
