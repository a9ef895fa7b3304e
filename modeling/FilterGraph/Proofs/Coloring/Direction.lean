import FilterGraph.Proofs.Coloring.Meeting
import FilterGraph.Proofs.Manifest.Reordering

namespace FilterGraph

/-- Node types that traffic enters at one port at most, as those that are built in and those of manifests. -/
structure NodeType.SingleEntry (t : NodeType) : Prop where
  differ : t.PortsDiffer
  inputs : t.inputs.length ≤ 1

theorem Registry.builtin_singleEntry {t : NodeType} (member : t ∈ Registry.builtin.types) : t.SingleEntry := by
  have inputs : ∀ t ∈ Registry.builtin.types, t.inputs.length ≤ 1 := by decide
  exact ⟨Registry.builtin_portsDiffer t member, inputs t member⟩

theorem NodeSpec.nodeType_singleEntry {s : NodeSpec} (outputs : (s.outputs.map (·.1)).Nodup)
    (reserved : "in" ∉ s.outputs.map (·.1)) (extension name : String) : (s.nodeType extension name).SingleEntry := by
  have names : s.ports.map (·.name) = "in" :: s.outputs.map (·.1) := by
    simp only [ports, List.map_cons, List.map_map]
    rfl
  have entries : s.ports.filter (·.kind == .input) = [s.input.toInput] := by
    rw [ports, List.filter_cons_of_pos (by rfl), List.filter_eq_nil_iff.mpr]
    intro p member
    obtain ⟨e, -, rfl⟩ := List.mem_map.mp member
    exact Bool.false_ne_true
  constructor
  · show (s.ports.map (·.name)).Nodup
    rw [names]
    exact List.nodup_cons.mpr ⟨reserved, outputs⟩
  · show (s.ports.filter (·.kind == .input)).length ≤ 1
    rw [entries]
    exact le_refl 1

theorem NodeSpec.check_reserved {v : Value} {s : NodeSpec} (checked : NodeSpec.check v = .ok s) :
    "in" ∉ s.outputs.map (·.1) := by
  obtain ⟨read, -, ensured⟩ := bind_ok checked
  obtain ⟨rfl, clear⟩ := Checked.ensure_ok ensured
  unfold problem? at clear
  split at clear
  case isTrue => cases clear
  case isFalse none =>
    intro taken
    obtain ⟨e, member, same⟩ := List.mem_map.mp taken
    exact none (List.any_eq_true.mpr ⟨e, member, beq_iff_eq.mpr same⟩)

theorem Manifest.nodeTypes_singleEntry {v : Value} {m : Manifest} (checked : Manifest.check v = .ok m) {t : NodeType}
    (member : t ∈ m.nodeTypes) : t.SingleEntry := by
  obtain ⟨⟨name, s⟩, listed, rfl⟩ := List.mem_map.mp member
  obtain ⟨w, passed⟩ := (Manifest.check_nodes checked).2 _ listed
  exact NodeSpec.nodeType_singleEntry (NodeSpec.check_distinct passed).outputs (NodeSpec.check_reserved passed) m.id name

namespace Graph

section Sound

variable {r : Registry} {g : Graph} (sound : g.Sound r) (differ : g.PortsDiffer)

include sound differ

theorem Sound.step_wire {c : Connection} (member : c ∈ g.connections) {b : PortRef} (step : g.PortStep c.output b) :
    b = c.input := by
  obtain ⟨p, -, port, -, -, kind, -⟩ := sound.connections c member
  have after := (sound.mem_portsAfter differ).mpr step
  simpa only [portsAfter, port, kind, target?_of_mem sound.outputs member, Option.toList_some, List.mem_singleton] using after

theorem Sound.step_through {n : Node} (member : n ∈ g.nodes) {a b : PortRef} (output : b ∈ n.outputRefs)
    (step : g.PortStep a b) : a ∈ n.inputRefs := by
  obtain ⟨p, listed, rfl⟩ := List.mem_map.mp output
  obtain ⟨declared, kind⟩ := List.mem_filter.mp listed
  have port := sound.port?_of_listed differ member declared
  have before := (sound.mem_portsBefore differ).mpr step
  simp only [portsBefore, port, eq_of_beq kind] at before
  simpa only [Node.ref, sound.node?_of_mem member, Option.map_some, Option.getD_some] using before

end Sound

theorem inputRefs_single {n : Node} (single : n.type.inputs.length ≤ 1) {a b : PortRef} (left : a ∈ n.inputRefs)
    (right : b ∈ n.inputRefs) : a = b := by
  have length : n.inputRefs.length ≤ 1 := by rwa [Node.inputRefs, List.length_map]
  rcases Nat.le_one_iff_eq_zero_or_eq_one.mp length with none | one
  · rw [List.length_eq_zero_iff.mp none] at left
    cases left
  · obtain ⟨c, listed⟩ := List.length_eq_one_iff.mp one
    rw [listed] at left right
    rw [List.mem_singleton.mp left, List.mem_singleton.mp right]

/-- Where nodes have one input at most, no port with outgoing traffic is followed by one with incoming traffic. -/
theorem flow_never_turns_back :
    (∀ t ∈ Registry.builtin.types, t.SingleEntry) ∧
      (∀ v m, Manifest.check v = .ok m → ∀ t ∈ m.nodeTypes, t.SingleEntry) ∧
      ∀ r g, Authored r g → (∀ n ∈ g.nodes, n.type.SingleEntry) →
        ∀ a b, g.PortStep a b → g.coloring.colorOf a = .outgoing → g.coloring.colorOf b ≠ .incoming := by
  refine ⟨fun t => Registry.builtin_singleEntry, fun v m checked t => Manifest.nodeTypes_singleEntry checked, ?_⟩
  intro r g authored single a b step outgoing incoming
  obtain ⟨built, wf⟩ := authored.well_formed
  have sound := wf.toSound
  have differ : g.PortsDiffer := fun n member => (single n member).differ
  have labelling := wf.coloring_labelling built differ
  cases step with
  | @wire c member =>
    -- The outgoing colour came to the output along its one connection.
    obtain ⟨localhost, stop, node, input, way⟩ := labelling.outgoing _ outgoing
    rcases way.cases_head with same | ⟨next, ⟨last, -, color⟩, -⟩
    · have here : c.output.node = localhostId := same ▸ (inputRefs_node input).trans (node?_mem node).2
      exact wf.localhost_terminal built _ ⟨c, member, here, rfl⟩
    · rw [sound.step_wire differ member last, incoming] at color
      cases color
  | @through n _ _ member input output =>
    -- The incoming colour came to the output through its node, by the one input.
    obtain ⟨source, start, node, leaving, way⟩ := labelling.incoming _ incoming
    rcases way.cases_tail with same | ⟨near, -, ⟨last, color, -⟩⟩
    · obtain ⟨origin, found, type⟩ := wf.source_node built
      have here : n.id = sourceId := by
        rw [← outputRefs_node output, same]
        exact (outputRefs_node leaving).trans (node?_mem node).2
      rw [← here, sound.node?_of_mem member] at found
      cases found
      rw [Node.inputRefs, type] at input
      cases input
    · have one := inputRefs_single (single n member).inputs (sound.step_through differ member output last) input
      rw [one, outgoing] at color
      cases color

def reply : Graph :=
  Graph.new.edits .builtin
    [.add "core:drop" (some "stop") [] (.list [.int 0, .int 0]),
      .add "core:interface_filter" (some "wan") [("interface", .text "eth0")] (.list [.int 0, .int 0]),
      .connect ⟨⟨sourceId, "out"⟩, ⟨"stop", "in"⟩⟩, .connect ⟨⟨"wan", "match"⟩, ⟨localhostId, "in"⟩⟩]

theorem reply_outgoing :
    reply.PortStep ⟨"wan", "in"⟩ ⟨"wan", "non-match"⟩ ∧ reply.coloring.colorOf ⟨"wan", "in"⟩ = .outgoing ∧
      reply.coloring.colorOf ⟨"wan", "non-match"⟩ ≠ .incoming := by
  have authored : Authored .builtin reply := .edits (.new .builtin) _
  obtain ⟨built, wf⟩ := authored.well_formed
  have single : ∀ n ∈ reply.nodes, n.type.SingleEntry :=
    fun n member => Registry.builtin_singleEntry (List.mem_of_find?_eq_some (wf.types n member))
  have differ : reply.PortsDiffer := fun n member => (single n member).differ
  have labelling := wf.coloring_labelling built differ
  have stop : reply.coloring.colorOf ⟨localhostId, "in"⟩ = .outgoing :=
    labelling.localhost _ (by rfl) _ (by decide +kernel)
  have passes : ∃ n ∈ reply.nodes, ⟨"wan", "in"⟩ ∈ n.inputRefs ∧ ⟨"wan", "match"⟩ ∈ n.outputRefs ∧
      ⟨"wan", "non-match"⟩ ∈ n.outputRefs := by decide +kernel
  obtain ⟨wan, member, input, matched, other⟩ := passes
  have exit : reply.PortStep ⟨"wan", "match"⟩ ⟨localhostId, "in"⟩ :=
    .wire (c := ⟨⟨"wan", "match"⟩, ⟨localhostId, "in"⟩⟩) (by decide +kernel)
  have through : reply.PortStep ⟨"wan", "in"⟩ ⟨"wan", "match"⟩ := .through member input matched
  -- Incoming traffic would come to a port of the filter by the port before it, and nothing enters the filter.
  have before : ∀ ref, reply.coloring.colorOf ref = .incoming → ref.node ≠ sourceId →
      ∃ near ∈ reply.portsBefore ref, reply.coloring.colorOf near = .incoming := by
    intro ref color apart
    obtain ⟨source, start, node, output, way⟩ := labelling.incoming _ color
    rcases way.cases_tail with same | ⟨near, -, last, given, -⟩
    · exact absurd (same ▸ (outputRefs_node output).trans (node?_mem node).2) apart
    · exact ⟨near, (wf.toSound.mem_portsBefore differ).mpr last, given⟩
  have entry : reply.coloring.colorOf ⟨"wan", "in"⟩ ≠ .incoming := by
    intro color
    obtain ⟨near, enters, -⟩ := before _ color (by decide)
    have none : reply.portsBefore ⟨"wan", "in"⟩ = [] := by rfl
    rw [none] at enters
    cases enters
  have leaving : reply.coloring.colorOf ⟨"wan", "match"⟩ = .outgoing := by
    cases color : reply.coloring.colorOf ⟨"wan", "match"⟩ with
    | outgoing => rfl
    | unset => exact absurd color (labelling.colored (labelling.upstream _ _ exit stop) (by decide +kernel))
    | incoming =>
      obtain ⟨near, enters, given⟩ := before _ color (by decide)
      have one : reply.portsBefore ⟨"wan", "match"⟩ = [⟨"wan", "in"⟩] := by rfl
      rw [one, List.mem_singleton] at enters
      exact absurd (enters ▸ given) entry
  have outgoing : reply.coloring.colorOf ⟨"wan", "in"⟩ = .outgoing := by
    cases color : reply.coloring.colorOf ⟨"wan", "in"⟩ with
    | outgoing => rfl
    | unset => exact absurd color (labelling.colored (labelling.upstream _ _ through leaving) (by decide +kernel))
    | incoming => exact absurd color entry
  have step : reply.PortStep ⟨"wan", "in"⟩ ⟨"wan", "non-match"⟩ := .through member input other
  exact ⟨step, outgoing, flow_never_turns_back.2.2 _ _ authored single _ _ step outgoing⟩

end Graph

end FilterGraph
