import FilterGraph.Coloring
import FilterGraph.Proofs.Sorting

namespace FilterGraph

theorem Node.ref_congr {n m : Node} (ids : n.id = m.id) : n.ref = m.ref := by
  funext p
  rw [ref, ref, ids]

namespace Graph

structure Alike (g h : Graph) : Prop where
  ids : g.nodeIds.Perm h.nodeIds
  types : ∀ id n m, g.node? id = some n → h.node? id = some m → n.type = m.type
  connections : g.connections.Perm h.connections

namespace Alike

variable {r : Registry} {g h : Graph} (alike : g.Alike h)

include alike

theorem map_node? {α : Type} {f : Node → α} (reads : ∀ n m : Node, n.id = m.id → n.type = m.type → f n = f m)
    (id : String) : (g.node? id).map f = (h.node? id).map f := by
  cases left : g.node? id with
  | none =>
    have missing : id ∉ h.nodeIds := fun member => node?_eq_none.mp left (alike.ids.symm.subset member)
    rw [node?_eq_none.mpr missing]
  | some n =>
    obtain ⟨member, same⟩ := node?_mem left
    obtain ⟨m, right⟩ := node?_isSome (alike.ids.subset (mem_nodeIds.mpr ⟨n, member, same⟩))
    have ids : n.id = m.id := same.trans (node?_mem right).2.symm
    rw [right, Option.map_some, Option.map_some, reads n m ids (alike.types id n m left right)]

theorem refs_eq (id : String) : (g.node? id).map Node.refs = (h.node? id).map Node.refs :=
  alike.map_node? (fun n m ids types => by simp only [Node.refs, Node.ref_congr ids, types]) id

theorem outputRefs_eq (id : String) : (g.node? id).map Node.outputRefs = (h.node? id).map Node.outputRefs :=
  alike.map_node? (fun n m ids types => by simp only [Node.outputRefs, Node.ref_congr ids, types]) id

theorem inputRefs_eq (id : String) : (g.node? id).map Node.inputRefs = (h.node? id).map Node.inputRefs :=
  alike.map_node? (fun n m ids types => by simp only [Node.inputRefs, Node.ref_congr ids, types]) id

theorem port?_eq (ref : PortRef) : g.port? ref = h.port? ref := by
  have port := alike.map_node? (f := fun n => n.type.port? ref.port)
    (fun n m _ types => congrArg (NodeType.port? · ref.port) types) ref.node
  have joined := congrArg (Option.bind · id) port
  simp only [Option.bind_map] at joined
  exact joined

theorem innerIds_perm : g.innerIds.Perm h.innerIds := alike.ids.filter _

theorem ports_perm (sound : g.Sound r) (other : h.Sound r) : g.ports.Perm h.ports := by
  have listed : ∀ {g : Graph}, g.Sound r → g.ports = g.nodeIds.flatMap fun id => ((g.node? id).map Node.refs).getD [] := by
    intro g sound
    rw [ports, nodeIds, List.flatMap_map]
    refine List.flatMap_congr fun n member => ?_
    rw [sound.node?_of_mem member, Option.map_some, Option.getD_some]
  rw [listed sound, listed other]
  simp only [alike.refs_eq]
  exact alike.ids.flatMap_right _

theorem outputs_nodup (sound : g.Sound r) : (h.connections.map (·.output)).Nodup :=
  (alike.connections.map _).nodup_iff.mp sound.outputs

variable (sound : g.Sound r)

include sound

theorem target?_eq (output : PortRef) : g.target? output = h.target? output := by
  refine Option.ext fun input => ?_
  rw [target?_eq_some sound.outputs, target?_eq_some (alike.outputs_nodup sound), alike.connections.mem_iff]

theorem outgoing_eq (id : String) : g.outgoing id = h.outgoing id := by
  have leaving : h.outgoingOf = g.outgoingOf := by
    funext n
    simp only [outgoingOf, alike.target?_eq sound]
  rw [outgoing, outgoing, leaving]
  have reads : ∀ n m : Node, n.id = m.id → n.type = m.type → g.outgoingOf n = g.outgoingOf m := by
    intro n m ids types
    simp only [outgoingOf, Node.outputRefs, Node.ref_congr ids, types]
  rw [alike.map_node? reads]

theorem successors_eq (id : String) : g.successors id = h.successors id := by
  rw [successors, successors, alike.outgoing_eq sound]

theorem incoming_eq (id : String) : g.incoming id = h.incoming id := by
  have entering : g.incomingOf = h.incomingOf := by
    funext n
    refine mergeSort_eq_of_perm (incomingLe_iff n.type.inputs) (alike.connections.filter _) ?_
    intro c left d right same
    have outputs : c.output = d.output := PortRef.key_inj (Prod.mk.inj (toLex.injective same)).2
    exact List.inj_on_of_nodup_map sound.outputs (List.mem_filter.mp left).1 (List.mem_filter.mp right).1 outputs
  rw [incoming, incoming, entering]
  have reads : ∀ n m : Node, n.id = m.id → n.type = m.type → h.incomingOf n = h.incomingOf m := by
    intro n m ids types
    simp only [incomingOf, ids, types]
  rw [alike.map_node? reads]

end Alike

end Graph
end FilterGraph
