import FilterGraph.Proofs.Graph.Authored

namespace FilterGraph.Graph

variable {r : Registry} {g : Graph}

theorem beginDrag_output {ref : PortRef} {p : Port} (port : g.port? ref = some p) (kind : p.kind = .output) :
    g.beginDrag ref = .ok ((g.disconnect ref).1, ⟨ref, .output, (g.disconnect ref).2⟩) := by
  rw [beginDrag, requirePort_ok.mpr port]
  simp only [Bind.bind, Except.bind, kind]
  rfl

theorem beginDrag_input {ref : PortRef} {p : Port} (port : g.port? ref = some p) (kind : p.kind = .input) :
    g.beginDrag ref = .ok (g, ⟨ref, .input, none⟩) := by
  rw [beginDrag, requirePort_ok.mpr port]
  simp only [Bind.bind, Except.bind, kind]
  rfl

theorem endDrag_from_output {d : Drag} (kind : d.kind = .output) (ref : PortRef) :
    g.endDrag d ref = (g.connect ⟨d.origin, ref⟩).map fun next => (next, some ⟨d.origin, ref⟩) := by
  simp only [endDrag, kind]
  cases g.connect ⟨d.origin, ref⟩ <;> rfl

theorem endDrag_from_input {d : Drag} (kind : d.kind = .input) {ref : PortRef} {p : Port}
    (port : g.port? ref = some p) (free : g.target? ref = none) :
    g.endDrag d ref = (g.connect ⟨ref, d.origin⟩).map fun next => (next, some ⟨ref, d.origin⟩) := by
  rw [endDrag, kind, requirePort_ok.mpr port]
  simp only [Bind.bind, Except.bind, free, Option.isSome_none, Bool.and_false, Bool.false_eq_true, if_false]
  cases g.connect ⟨ref, d.origin⟩ <;> rfl

theorem endDrag_occupied {d : Drag} (kind : d.kind = .input) {ref : PortRef} {p : Port} (port : g.port? ref = some p)
    (output : p.kind = .output) (occupied : (g.target? ref).isSome = true) : g.endDrag d ref = .ok (g, none) := by
  rw [endDrag, kind, requirePort_ok.mpr port]
  simp only [Bind.bind, Except.bind, output, occupied, beq_self_eq_true, Bool.and_self, if_true]
  rfl

theorem disconnect_target {output input : PortRef} (joined : g.target? output = some input) :
    g.disconnect output = (g.unplugged output, some ⟨output, input⟩) := by rw [disconnect, joined]

theorem disconnect_free {output : PortRef} (free : g.target? output = none) : g.disconnect output = (g, none) := by
  rw [disconnect, free]

theorem unplugged_free (g : Graph) (output : PortRef) : (g.unplugged output).target? output = none := by
  apply target?_eq_none.mpr
  intro member
  obtain ⟨c, kept, same⟩ := List.mem_map.mp member
  have other := (List.mem_filter.mp kept).2
  simp [same] at other

theorem unplugged_perm (outputs : (g.connections.map (·.output)).Nodup) {c : Connection} (member : c ∈ g.connections) :
    ((g.unplugged c.output).connections ++ [c]).Perm g.connections := by
  have alone : g.connections.filter (·.output != c.output) = g.connections.erase c := by
    rw [(List.Nodup.of_map _ outputs).erase_eq_filter]
    apply List.filter_congr
    intro d old
    by_cases same : d = c
    · rw [same, bne_self_eq_false, bne_self_eq_false]
    · have apart : d.output ≠ c.output := fun ends => same (List.inj_on_of_nodup_map outputs old member ends)
      rw [bne_iff_ne.mpr apart, bne_iff_ne.mpr same]
  rw [unplugged, alone]
  exact (List.perm_append_singleton c _).trans (List.perm_cons_erase member).symm

theorem WellFormed.put_back (wf : g.WellFormed r) {c : Connection} (member : c ∈ g.connections) :
    g.beginDrag c.output = .ok (g.unplugged c.output, ⟨c.output, .output, some c⟩) ∧
      (g.unplugged c.output).endDrag ⟨c.output, .output, some c⟩ c.input =
        .ok ({ g with connections := (g.unplugged c.output).connections ++ [c] }, some c) := by
  have joins := wf.connections c member
  obtain ⟨p, -, port, -, -, kind, -⟩ := wf.connections c member
  constructor
  · rw [beginDrag_output port kind, disconnect_target (target?_of_mem wf.outputs member)]
  · have again : (g.unplugged c.output).Joins c := joins.transfer rfl rfl
    have made := connect_ok.mpr ⟨again, g.unplugged_free c.output, rfl⟩
    rw [endDrag_from_output rfl, made]
    rfl

theorem WellFormed.target_output (wf : g.WellFormed r) {output input : PortRef} (joined : g.target? output = some input) :
    ∃ p, g.port? output = some p ∧ p.kind = .output := by
  obtain ⟨p, -, port, -, -, kind, -⟩ := wf.connections _ (target?_mem joined)
  exact ⟨p, port, kind⟩

/-- What drags do in a graph that an author can have: a connection taken up is put back, a free output port and an input
    port are joined or refused alike from both ends, and a drag that began at an input port leaves a connected output
    port, and everything else, as it is, whatever became of the graph in between. -/
theorem drags_alike (authored : Authored r g) :
    (∀ c ∈ g.connections, ∃ lifted d next, g.beginDrag c.output = .ok (lifted, d) ∧
      lifted.endDrag d c.input = .ok (next, some c) ∧ next = { g with connections := next.connections } ∧
      next.connections.Perm g.connections) ∧
    (∀ o i p q, g.port? o = some p → p.kind = .output → g.target? o = none → g.port? i = some q → q.kind = .input →
      ∃ d e, g.beginDrag o = .ok (g, d) ∧ g.beginDrag i = .ok (g, e) ∧ g.endDrag d i = g.endDrag e o ∧
        g.endDrag d i = (g.connect ⟨o, i⟩).map fun next => (next, some ⟨o, i⟩)) ∧
    ∀ i q begun d, g.port? i = some q → q.kind = .input → g.beginDrag i = .ok (begun, d) →
      ∀ r' later, Authored r' later → ∀ o x, later.target? o = some x → later.endDrag d o = .ok (later, none) := by
  have wf := authored.well_formed.2
  refine ⟨?_, ?_, ?_⟩
  · intro c member
    obtain ⟨begun, ended⟩ := wf.put_back member
    exact ⟨_, _, _, begun, ended, rfl, unplugged_perm wf.outputs member⟩
  · intro o i p q output outputKind free input inputKind
    have fromOutput := beginDrag_output output outputKind
    rw [disconnect_free free] at fromOutput
    have forward := endDrag_from_output (g := g) (d := ⟨o, .output, none⟩) rfl i
    have backward := endDrag_from_input (d := ⟨i, .input, none⟩) rfl output free
    exact ⟨_, _, fromOutput, beginDrag_input input inputKind, forward.trans backward.symm, forward⟩
  · intro i q begun d input kind started r' later authored' o x joined
    rw [beginDrag_input input kind] at started
    cases started
    obtain ⟨p, port, output⟩ := authored'.well_formed.2.target_output joined
    exact endDrag_occupied rfl port output (Option.isSome_iff_exists.mpr ⟨x, joined⟩)

def sinkEdits : List Edit :=
  [.add "core:drop" (some "sink") [] (.list [.int 0, .int 0]), .connect ⟨⟨sourceId, "out"⟩, ⟨"sink", "in"⟩⟩]

theorem late_drag_rejected :
    let o : PortRef := ⟨sourceId, "out"⟩
    let i : PortRef := ⟨localhostId, "in"⟩
    let c : Connection := ⟨o, ⟨"sink", "in"⟩⟩
    let later := Graph.new.edits .builtin sinkEdits
    (∃ lifted d next, later.beginDrag o = .ok (lifted, d) ∧ lifted.endDrag d c.input = .ok (next, some c) ∧
      next.connections.Perm [c]) ∧
    ∃ d, Graph.new.beginDrag i = .ok (.new, d) ∧ later.endDrag d o = .ok (later, none) ∧
      Graph.new.endDrag d o = (Graph.new.connect ⟨o, i⟩).map fun next => (next, some ⟨o, i⟩) := by
  intro o i c later
  have authored : Authored .builtin Graph.new := .new .builtin
  have authoredLater : Authored .builtin later := authored.edits sinkEdits
  obtain ⟨restored, -, -⟩ := drags_alike authoredLater
  obtain ⟨-, alike, rejected⟩ := drags_alike authored
  obtain ⟨lifted, d, next, lifting, ended, -, same⟩ := restored c (by decide)
  have output : Graph.new.port? o = some (.output "out" "incoming") := by decide
  have input : Graph.new.port? i = some (.input "in" "delivered") := by decide
  obtain ⟨_, e, -, begun, bothWays, made⟩ := alike o i _ _ output rfl (by decide) input rfl
  have late := rejected i _ _ e input rfl begun .builtin later authoredLater o c.input (by decide)
  exact ⟨⟨lifted, d, next, lifting, ended, same⟩, e, begun, late, bothWays ▸ made⟩

end FilterGraph.Graph
