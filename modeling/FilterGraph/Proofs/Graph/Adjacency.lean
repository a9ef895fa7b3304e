import FilterGraph.Proofs.Alike.Graph
import FilterGraph.Proofs.Graph.Authored
import FilterGraph.Proofs.Graph.Ports
import FilterGraph.Proofs.Registry.Integrity

namespace FilterGraph

def NodeType.inputPlace (t : NodeType) (port : String) : ℕ := (t.inputs.map (·.name)).idxOf port

namespace Graph

def entryKey (t : NodeType) (c : Connection) : ℕ ×ₗ String ×ₗ String := toLex (t.inputPlace c.input.port, c.output.key)

theorem inputRank_eq_inputPlace {t : NodeType} (differ : t.PortsDiffer) (port : String) :
    inputRank t.inputs port = t.inputPlace port := by
  have named : (t.inputs.map (·.name)).Nodup := (List.filter_sublist.map _).nodup differ
  unfold inputRank NodeType.inputPlace
  cases found : t.inputs.reverse.findIdx? (·.name == port) with
  | none =>
    have absent : port ∉ t.inputs.map (·.name) := by
      intro listed
      obtain ⟨p, member, rfl⟩ := List.mem_map.mp listed
      have refused := List.findIdx?_eq_none_iff.mp found p (List.mem_reverse.mpr member)
      rw [beq_self_eq_true] at refused
      cases refused
    rw [List.idxOf_eq_length_iff.mpr absent, List.length_map]
  | some i =>
    obtain ⟨bound, matched, -⟩ := List.findIdx?_eq_some_iff_getElem.mp found
    rw [List.length_reverse] at bound
    rw [List.getElem_reverse, beq_iff_eq] at matched
    have place : t.inputs.length - 1 - i < (t.inputs.map (·.name)).length := by
      rw [List.length_map]
      omega
    have here := named.idxOf_getElem _ place
    rw [List.getElem_map, matched] at here
    exact here.symm

section Incoming

variable {r : Registry} {g : Graph}

theorem incoming_eq {id : String} {n : Node} (found : g.node? id = some n) : g.incoming id = g.incomingOf n := by
  rw [incoming, found, Option.map_some, Option.getD_some]

theorem Sound.incoming_perm (sound : g.Sound r) (id : String) :
    (g.incoming id).Perm (g.connections.filter (·.input.node == id)) := by
  cases found : g.node? id with
  | none =>
    have nothing : g.connections.filter (·.input.node == id) = [] := by
      apply List.filter_eq_nil_iff.mpr
      intro c member same
      have present := (sound.connections c member).input_mem
      rw [eq_of_beq same] at present
      exact node?_eq_none.mp found present
    rw [nothing, incoming, found]
    exact .nil
  | some n =>
    rw [incoming_eq found, incomingOf, (node?_mem found).2]
    exact List.mergeSort_perm _ _

theorem Sound.outgoing_perm (sound : g.Sound r) (differ : g.PortsDiffer) (id : String) :
    (g.outgoing id).Perm (g.connections.filter (·.output.node == id)) := by
  have sent := sound.flatMap_outgoing differ (List.nodup_singleton id)
  rw [List.flatMap_singleton] at sent
  refine sent.trans (.of_eq (List.filter_congr fun c _ => ?_))
  rw [List.contains_cons, List.contains_nil, Bool.or_false]

theorem Sound.count_filter (sound : g.Sound r) (p : Connection → Bool) (c : Connection) :
    (g.connections.filter p).count c = if c ∈ g.connections ∧ p c = true then 1 else 0 := by
  simp only [(sound.connections_nodup.filter p).count, List.mem_filter]

theorem Sound.count_successors (sound : g.Sound r) (differ : g.PortsDiffer) (u v : String) :
    (g.successors u).count v = (g.predecessors v).count u := by
  have sent : (g.successors u).count v =
      g.connections.countP fun c => c.input.node == v && c.output.node == u := by
    rw [successors, ((sound.outgoing_perm differ u).map _).count_eq, List.count_eq_countP, List.countP_map, List.countP_filter]
    rfl
  have received : (g.predecessors v).count u =
      g.connections.countP fun c => c.output.node == u && c.input.node == v := by
    rw [predecessors, ((sound.incoming_perm v).map _).count_eq, List.count_eq_countP, List.countP_map, List.countP_filter]
    rfl
  rw [sent, received]
  apply List.countP_congr
  intro c _
  rw [Bool.and_comm]

theorem Sound.input_listed (sound : g.Sound r) {n : Node} (present : n ∈ g.nodes) {c : Connection}
    (member : c ∈ g.connections) (entering : c.input.node = n.id) : c.input.port ∈ n.type.inputs.map (·.name) := by
  obtain ⟨-, input, -, port, -, -, kind, -⟩ := sound.connections c member
  obtain ⟨m, found, named⟩ := port?_eq.mp port
  rw [entering, sound.node?_of_mem present] at found
  cases found
  have listed : input ∈ n.type.inputs := List.mem_filter.mpr ⟨List.mem_of_find?_eq_some named, beq_iff_eq.mpr kind⟩
  have matched := List.find?_some named
  exact eq_of_beq matched ▸ List.mem_map_of_mem listed

theorem Sound.incoming_sorted (sound : g.Sound r) {n : Node} (present : n ∈ g.nodes) (differ : n.type.PortsDiffer) :
    (g.incoming n.id).Pairwise fun a b => entryKey n.type a < entryKey n.type b := by
  have found := sound.node?_of_mem present
  have compares (a b : Connection) :
      incomingLe n.type.inputs a b = true ↔ entryKey n.type a ≤ entryKey n.type b := by
    rw [incomingLe_iff, inputRank_eq_inputPlace differ, inputRank_eq_inputPlace differ]
    rfl
  have distinct : (g.incoming n.id).Nodup :=
    (sound.incoming_perm n.id).nodup_iff.mpr (sound.connections_nodup.filter _)
  have outputs : ∀ a ∈ g.incoming n.id, ∀ b ∈ g.incoming n.id, entryKey n.type a = entryKey n.type b → a = b := by
    intro a left b right same
    have here := (List.mem_filter.mp ((sound.incoming_perm n.id).subset left)).1
    have there := (List.mem_filter.mp ((sound.incoming_perm n.id).subset right)).1
    have keys : a.output.key = b.output.key := (Prod.mk.inj (toLex.injective same)).2
    exact List.inj_on_of_nodup_map sound.outputs here there (PortRef.key_inj keys)
  have sorted := pairwise_mergeSort compares (g.connections.filter (·.input.node == n.id))
  rw [← incomingOf, ← incoming_eq found] at sorted
  refine (sorted.and distinct).imp_of_mem fun {a b} left right ordered => ?_
  exact lt_of_le_of_ne ordered.1 fun same => ordered.2 (outputs a left b right same)

end Incoming

/-- Every connection leaves its sender once and enters its receiver once, and is met nowhere else. What leaves a node comes
    in the order of its ports; what enters it comes strictly sorted, however the connections are listed. -/
theorem connections_met_once {r : Registry} {g : Graph} (authored : Authored r g) (differ : g.PortsDiffer) :
    (∀ c id, (g.outgoing id).count c = if c ∈ g.connections ∧ c.output.node = id then 1 else 0) ∧
      (∀ c id, (g.incoming id).count c = if c ∈ g.connections ∧ c.input.node = id then 1 else 0) ∧
      (∀ n ∈ g.nodes, ((g.outgoing n.id).map (·.output)).Sublist n.outputRefs) ∧
      (∀ n ∈ g.nodes, (∀ c ∈ g.incoming n.id, c.input.port ∈ n.type.inputs.map (·.name)) ∧
        (g.incoming n.id).Pairwise fun a b => entryKey n.type a < entryKey n.type b) ∧
      (∀ h : Graph, h.nodes = g.nodes → h.connections.Perm g.connections →
        ∀ id, h.outgoing id = g.outgoing id ∧ h.incoming id = g.incoming id) ∧
      ∀ u v, (g.successors u).count v = (g.predecessors v).count u := by
  have sound := authored.well_formed.2.toSound
  refine ⟨fun c id => ?_, fun c id => ?_, fun n present => ?_, fun n present => ⟨fun c entering => ?_, ?_⟩,
    fun h nodes perm id => ?_, sound.count_successors differ⟩
  · rw [(sound.outgoing_perm differ id).count_eq, sound.count_filter]
    simp only [beq_iff_eq]
  · rw [(sound.incoming_perm id).count_eq, sound.count_filter]
    simp only [beq_iff_eq]
  · rw [outgoing_eq (sound.node?_of_mem present)]
    exact g.outgoingOf_outputs n
  · obtain ⟨member, here⟩ := List.mem_filter.mp ((sound.incoming_perm n.id).subset entering)
    exact sound.input_listed present member (eq_of_beq here)
  · exact sound.incoming_sorted present (differ n present)
  · have alike : g.Alike h := by
      constructor
      case ids => rw [nodeIds, nodeIds, nodes]
      case types =>
        intro id n m here there
        rw [node?, nodes] at there
        cases here.symm.trans there
        rfl
      case connections => exact perm.symm
    exact ⟨(alike.outgoing_eq sound id).symm, (alike.incoming_eq sound id).symm⟩

def funnel : NodeType :=
  { Builtin.drop.nodeType with typeId := "lab:funnel", ports := [.input "right", .input "left", .output "out"] }

def funnels : Bundle := .ofTypes "lab" [funnel]

def withFunnels : Registry :=
  { types := Registry.builtin.types ++ funnels.types, extensions := [(funnels.id, funnels.fingerprint)] }

def funnelled : Graph :=
  Graph.new.edits withFunnels
    [.add "core:interface_filter" (some "f") [] (.list [.int 0, .int 0]), .add "lab:funnel" (some "j") [] (.list [.int 0, .int 0]),
      .connect ⟨⟨"f", "match"⟩, ⟨"j", "left"⟩⟩, .connect ⟨⟨"f", "non-match"⟩, ⟨"j", "right"⟩⟩]

theorem funnelled_incoming :
    funnelled.incoming "j" = [⟨⟨"f", "non-match"⟩, ⟨"j", "right"⟩⟩, ⟨⟨"f", "match"⟩, ⟨"j", "left"⟩⟩] ∧
      (funnelled.predecessors "j").count "f" = 2 := by
  have loading : Registry.builtin.load funnels = .ok (withFunnels, true) :=
    Registry.load_of_new rfl (Registry.clashes_eq_nil.mpr (by decide))
  have authored : Authored withFunnels funnelled := .edits (.new (.loaded .builtin loading)) _
  have differ : funnelled.PortsDiffer := by
    unfold PortsDiffer NodeType.PortsDiffer
    decide +kernel
  obtain ⟨-, received, -, sorted, -, counted⟩ := connections_met_once authored differ
  constructor
  case right =>
    rw [← counted]
    decide +kernel
  case left =>
    obtain ⟨n, present, id, first, second⟩ : ∃ n ∈ funnelled.nodes, n.id = "j" ∧ n.type.inputPlace "right" = 0 ∧
        n.type.inputPlace "left" = 1 := by decide +kernel
    obtain ⟨-, strict⟩ := sorted n present
    rw [id] at strict
    have wired : funnelled.connections = [⟨⟨"f", "match"⟩, ⟨"j", "left"⟩⟩, ⟨⟨"f", "non-match"⟩, ⟨"j", "right"⟩⟩] := by rfl
    have ahead : entryKey n.type ⟨⟨"f", "non-match"⟩, ⟨"j", "right"⟩⟩ < entryKey n.type ⟨⟨"f", "match"⟩, ⟨"j", "left"⟩⟩ := by
      apply Prod.Lex.toLex_lt_toLex.mpr
      left
      show n.type.inputPlace "right" < n.type.inputPlace "left"
      omega
    have both : (funnelled.incoming "j").Perm [⟨⟨"f", "non-match"⟩, ⟨"j", "right"⟩⟩, ⟨⟨"f", "match"⟩, ⟨"j", "left"⟩⟩] := by
      apply List.perm_iff_count.mpr
      intro c
      rw [received, wired]
      by_cases left : c = ⟨⟨"f", "match"⟩, ⟨"j", "left"⟩⟩
      · subst left
        decide
      by_cases right : c = ⟨⟨"f", "non-match"⟩, ⟨"j", "right"⟩⟩
      · subst right
        decide
      · simp [left, right, Ne.symm left, Ne.symm right]
    refine List.Perm.eq_of_pairwise ?_ strict (List.pairwise_pair.mpr ahead) both
    intro a b _ _ below above
    exact absurd (below.trans above) (lt_irrefl _)

end Graph
end FilterGraph
