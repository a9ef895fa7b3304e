import FilterGraph.Proofs.Export.Chains

namespace FilterGraph

namespace Graph

theorem Sound.leaving_eq {r : Registry} {g : Graph} (sound : g.Sound r) (id port : String) :
    (Connection.leaving port (g.outgoing id)).map (·.input) = g.target? ⟨id, port⟩ := by
  cases found : Connection.leaving port (g.outgoing id) with
  | some c =>
    have matched := List.find?_some found
    obtain ⟨member, node⟩ := outgoing_sound (List.mem_of_find?_eq_some found)
    have output : c.output = ⟨id, port⟩ := by
      rw [← node, ← eq_of_beq matched]
    rw [← output, target?_of_mem sound.outputs member]
    rfl
  | none =>
    cases target : g.target? ⟨id, port⟩ with
    | none => rfl
    | some input =>
      have listed := sound.mem_outgoing.mpr ⟨target?_mem target, rfl⟩
      exact absurd (beq_self_eq_true port) (List.find?_eq_none.mp found _ listed)

end Graph

theorem Builtin.ofTypeId?_typeId (b : Builtin) : ofTypeId? b.typeId = some b := by
  rcases b with _ | _ | (_ | _ | _ | _) | _ | _ | _ | _ | _ <;> try rfl
  all_goals rename_i side; cases side <;> rfl

theorem Builtin.kind_ne (b : Builtin) : b.kind ≠ "ExtensionNodeType" := by
  rcases b with _ | _ | (_ | _ | _ | _) | _ | _ | _ | _ | _ <;> try decide
  all_goals rename_i side; cases side <;> decide

theorem Builtin.nodeType_inj {a b : Builtin} (same : a.nodeType = b.nodeType) : a = b := by
  have types : a.typeId = b.typeId := congrArg NodeType.typeId same
  have found := congrArg ofTypeId? types
  rwa [a.ofTypeId?_typeId, b.ofTypeId?_typeId, Option.some_inj] at found

theorem Kind.eq_builtin {k : Kind} {b : Builtin} (same : k.nodeType = b.nodeType) : k = .builtin b := by
  cases k with
  | manifest extension name spec plain => exact absurd (congrArg NodeType.kind same).symm b.kind_ne
  | builtin other => rw [Builtin.nodeType_inj same]

namespace Graph

variable {r : Registry} {g : Graph} {kind : String → Kind} (built : r.Built) (wf : g.WellFormed r)
  (known : g.Known kind)

include built wf known

theorem Known.source_eq : kind sourceId = .builtin .source := by
  obtain ⟨n, found, type⟩ := wf.source_node built
  obtain ⟨member, id⟩ := node?_mem found
  exact Kind.eq_builtin (by rw [← id, ← known n member, type])

theorem Known.localhost_eq : kind localhostId = .builtin .localhost := by
  obtain ⟨n, found, type⟩ := wf.localhost_node built
  obtain ⟨member, id⟩ := node?_mem found
  exact Kind.eq_builtin (by rw [← id, ← known n member, type])

end Graph

namespace Plan

/-- The mark of a packet behind a node: a NAT node puts its own, which is its place in the order. -/
def markAfter (p : Plan) (kind : String → Kind) (mark : Int) (id : String) : Int :=
  if (kind id).isNat then (p.order.idxOf id : Int) else mark

def Routes (p : Plan) (kind : String → Kind) (folder : String) (rules : List Rule) (id : String) : Prop :=
  ∀ (packet : Packet) (mark : Int), ∃ n departure e, p.analysis.graph.node? id = some n ∧
    packet.departure folder n.view (kind id) = .ok departure ∧
    departure.Leads p.chains (p.analysis.graph.outgoing id) e ∧
    packet.exit mark (rules.filter (·.chain == chainName id)) = (e, p.markAfter kind mark id)

section Routes

variable {r : Registry} {p : Plan} {kind : String → Kind} {s : Settings} {files : FileTree}
  {ls : Entries String Listing} (wf : p.analysis.graph.WellFormed r) (complete : p.Complete)
  (listed : p.Listed kind s files ls)

include wf complete listed

theorem Listed.node_routes {e : String × Listing} (member : e ∈ ls) :
    p.Routes kind s.dataFolder (Script.rules (p.scriptLines s ls)) e.1 := by
  obtain ⟨n, mark, found, marked, -, realized⟩ := listed.entries e member
  have place := complete.idxOf_marked marked
  intro packet before
  obtain ⟨departure, exit, departs, leads, left⟩ := realized.exits packet before
  refine ⟨n, departure, exit, found, departs, leads, ?_⟩
  rw [listed.node_rules complete ((complete.ids _).mpr wf.source) ((complete.ids _).mpr wf.localhost) member, left,
    markAfter, place]
  rfl

theorem Listed.source_routes (built : r.Built) (known : p.analysis.graph.Known kind) :
    p.Routes kind s.dataFolder (Script.rules (p.scriptLines s ls)) sourceId := by
  obtain ⟨n, found, type⟩ := wf.source_node built
  obtain ⟨member, id⟩ := Graph.node?_mem found
  have isSource := known.source_eq built wf
  have outgoing : p.analysis.graph.outgoing sourceId =
      ((p.analysis.graph.target? ⟨sourceId, "out"⟩).map fun input => ⟨⟨sourceId, "out"⟩, input⟩).toList := by
    have refs : n.outputRefs = [⟨sourceId, "out"⟩] := by
      rw [Node.outputRefs, type, ← id]
      rfl
    rw [Graph.outgoing_eq found, Graph.outgoingOf, refs, List.filterMap_cons, List.filterMap_nil]
    cases p.analysis.graph.target? ⟨sourceId, "out"⟩ <;> rfl
  have rules := listed.source_rules complete ((complete.ids _).mpr wf.source) ((complete.ids _).mpr wf.localhost)
  intro packet mark
  have after : p.markAfter kind mark sourceId = mark := by
    rw [markAfter, isSource]
    rfl
  rw [rules, after, isSource]
  cases target : p.analysis.graph.target? ⟨sourceId, "out"⟩ with
  | none =>
    rw [target] at outgoing
    rw [outgoing]
    exact ⟨n, .port "out", .decided .accept, found, rfl, .free rfl, rfl⟩
  | some input =>
    rw [target] at outgoing
    rw [outgoing]
    have present : input.node ∈ p.order :=
      (complete.ids _).mpr (wf.connections _ (Graph.target?_mem target)).input_mem
    have chain := complete.get?_chains.mpr ⟨present, rfl⟩
    refine ⟨n, .port "out", .goto (chainName input.node), found, rfl, .connected rfl chain, ?_⟩
    have goes : (Verdict.goto ((p.chains.get? input.node).getD "")).exit? = some (.goto (chainName input.node)) := by
      rw [chain]
      rfl
    exact Packet.exit_always goes mark []

theorem Listed.localhost_routes (built : r.Built) (known : p.analysis.graph.Known kind) :
    p.Routes kind s.dataFolder (Script.rules (p.scriptLines s ls)) localhostId := by
  obtain ⟨n, found, type⟩ := wf.localhost_node built
  have isLocalhost := known.localhost_eq built wf
  intro packet mark
  refine ⟨n, .decided .accept, .decided .accept, found, ?_, .decided .accept, ?_⟩
  · rw [isLocalhost]
    rfl
  · rw [listed.localhost_rules complete ((complete.ids _).mpr wf.source) ((complete.ids _).mpr wf.localhost),
      markAfter, isLocalhost]
    rfl

theorem Listed.routes (built : r.Built) (known : p.analysis.graph.Known kind) {id : String} (member : id ∈ p.order) :
    p.Routes kind s.dataFolder (Script.rules (p.scriptLines s ls)) id := by
  by_cases permanent : isPermanentId id = true
  · rcases isPermanentId_iff.mp permanent with source | localhost
    · exact source ▸ listed.source_routes wf complete built known
    · exact localhost ▸ listed.localhost_routes wf complete built known
  · obtain ⟨e, present, rfl⟩ := listed.listed_of_mem member (Bool.not_eq_true _ ▸ permanent)
    exact listed.node_routes wf complete present

/-- The walk from a node and the run of the rules from its chain pass the same nodes and end alike. -/
theorem Listed.walks (built : r.Built) (known : p.analysis.graph.Known kind) {id : String} (member : id ∈ p.order)
    (ends : p.analysis.graph.Ends id) (packet : Packet) (mark : Int) :
    ∃ trace d, packet.Walks p.analysis.graph kind s.dataFolder id trace d ∧
      packet.Executes (Script.rules (p.scriptLines s ls)) (chainName id) mark (trace.map chainName) d
        (trace.foldl (p.markAfter kind) mark) := by
  -- the ways of the graph end, and the run of the rules ends with them: no measure on rules would do
  induction ends generalizing mark with
  | intro id _ ih =>
    obtain ⟨n, departure, e, found, departs, leads, left⟩ := listed.routes wf complete built known member packet mark
    cases leads with
    | decided d => exact ⟨[id], d, .decided found departs, .decided left⟩
    | @free port none =>
      have free := wf.leaving_eq id port
      rw [none] at free
      exact ⟨[id], .accept, .unconnected found departs free.symm, .decided left⟩
    | @connected port chain c leaving there =>
      have target := wf.leaving_eq id port
      rw [leaving] at target
      obtain ⟨next, rfl⟩ := complete.get?_chains.mp there
      have step : p.analysis.graph.Follows id c.input.node := ⟨_, Graph.target?_mem target.symm, rfl, rfl⟩
      obtain ⟨trace, d, walk, run⟩ := ih c.input.node step next (p.markAfter kind mark id)
      exact ⟨id :: trace, d, .moved found departs target.symm walk, .goto left run⟩

end Routes

end Plan

theorem Graph.compile_routes {r : Registry} {g : Graph} (built : r.Built) (wf : g.WellFormed r)
    {kind : String → Kind} (known : g.Known kind) {s : Settings} {files : FileTree} {a : Artifact}
    (compiled : g.compile s files = .ok a) :
    ∃ (p : Plan) (ls : Entries String Listing), p.analysis = g.analyze ∧ p.Complete ∧ p.Listed kind s files ls ∧
      a = p.assembled s (Plan.emissions ls) ∧ g.scriptLines kind s files = .ok (p.scriptLines s ls) ∧
      ∀ (packet : Packet) (mark : Int), ∃ path d,
        packet.Walks g.normalize.graph kind s.dataFolder sourceId path d ∧
        packet.Executes (Script.rules (p.scriptLines s ls)) (chainName sourceId) mark (path.map chainName) d
          (path.foldl (p.markAfter kind) mark) := by
  obtain ⟨p, ls, planned, analysis, complete, listing, listed, assembled⟩ := compile_ok wf known compiled
  have lines : g.scriptLines kind s files = .ok (p.scriptLines s ls) := by
    unfold Graph.scriptLines
    rw [planned]
    simp only [Bind.bind, Except.bind, listing]
    rfl
  have graph : p.analysis.graph = g.normalize.graph := congrArg Analysis.graph analysis
  have normal : p.analysis.graph.WellFormed r := graph ▸ normalize_well_formed wf
  have planKnown : p.analysis.graph.Known kind := analysis ▸ known.normalize
  have ends : p.analysis.graph.Ends sourceId := graph ▸ normalize_ends built wf sourceId
  have source : sourceId ∈ p.order := (complete.ids _).mpr normal.source
  refine ⟨p, ls, analysis, complete, listed, assembled, lines, fun packet mark => ?_⟩
  obtain ⟨path, d, walk, run⟩ := listed.walks normal complete built planKnown source ends packet mark
  exact ⟨path, d, graph ▸ walk, run⟩

/-- The rules of a compiled graph decide about every packet as its walk through the normalized graph does. -/
theorem Packet.compiled_rules_decide {r : Registry} {g : Graph} (built : r.Built) (reachable : g.Reachable r)
    {kind : String → Kind} (known : g.Known kind) {s : Settings} {files : FileTree} {a : Artifact}
    (compiled : g.compile s files = .ok a) :
    ∃ sections, g.scriptLines kind s files = .ok sections ∧ a.script = Script.text sections ∧
      ∀ (packet : Packet) (mark : Int), ∃ path d last,
        packet.Executes (Script.rules sections) (chainName sourceId) mark (path.map chainName) d last ∧
        packet.Walks g.normalize.graph kind s.dataFolder sourceId path d ∧
        (∀ chains e after, packet.Executes (Script.rules sections) (chainName sourceId) mark chains e after → e = d) ∧
        ∀ other e, packet.Walks g.normalize.graph kind s.dataFolder sourceId other e → e = d := by
  have wf := reachable.well_formed built
  obtain ⟨p, ls, -, -, listed, rfl, lines, routes⟩ := g.compile_routes built wf known compiled
  refine ⟨p.scriptLines s ls, lines, listed.script_eq, fun packet mark => ?_⟩
  obtain ⟨path, d, walk, run⟩ := routes packet mark
  exact ⟨path, d, _, run, walk, fun _ _ _ other => (other.unique run).2.1, fun _ _ other => (other.unique walk).2⟩

def gate : Graph :=
  let link (a port b : String) : Edit := .connect ⟨⟨a, port⟩, ⟨b, "in"⟩⟩
  Graph.new.edits .builtin
    [.add "core:interface_filter" (some "wan") [("interface", .text "eth0")] (.list [.int 0, .int 0]),
      .add "core:drop" (some "drop") [] (.list [.int 0, .int 0]),
      link sourceId "out" "wan", link "wan" "non-match" "drop"]

def gateKind : String → Kind
  | "source" => .builtin .source
  | "localhost" => .builtin .localhost
  | "wan" => .builtin (.filter .interface)
  | _ => .builtin .drop

theorem gate_known : gate.Known gateKind := by
  have nodes : gate.nodes =
      [{ id := sourceId, type := Builtin.source.nodeType }, { id := localhostId, type := Builtin.localhost.nodeType },
        { id := "wan", type := (Builtin.filter .interface).nodeType, params := [("interface", .text "eth0")] },
        { id := "drop", type := Builtin.drop.nodeType }] := by rfl
  intro n member
  rw [nodes] at member
  simp only [List.mem_cons, List.not_mem_nil, or_false] at member
  rcases member with rfl | rfl | rfl | rfl <;> rfl

theorem gate_analyze : gate.analyze = ⟨⟨gate, [], []⟩, gate.coloring⟩ :=
  Graph.analyze_eq (by decide +kernel) ((CycleSearch.run_eq 10 (by decide +kernel)).trans (by decide +kernel))

theorem gate_compiled : ∃ a, gate.compile {} (.empty (Path.ofText "/")) = .ok a := by
  let p : Plan := ⟨⟨⟨gate, [], []⟩, gate.coloring⟩, [sourceId, "wan", "drop", localhostId],
    [(sourceId, "source"), ("wan", "n_wan"), ("drop", "n_drop"), (localhostId, "localhost")]⟩
  let ls : Entries String Listing :=
    [("wan", { lines := [.text "# wan: Interface Filter (core:interface_filter)",
        .rule ⟨"n_wan", .expression "iifname \"eth0\"", .leave⟩, .rule ⟨"n_wan", .always, .goto "n_drop"⟩] }),
      ("drop", { lines := [.text "# drop: Drop (core:drop)", .rule ⟨"n_drop", .always, .drop⟩] })]
  have planned : Plan.ofAnalysis gate.analyze = .ok p := by
    rw [gate_analyze]
    unfold p
    generalize gate.coloring = colors
    rfl
  have listed : p.listings gateKind {} (.empty (Path.ofText "/")) = .ok ls := by
    unfold p
    generalize gate.coloring = colors
    rfl
  have fine : ∀ e ∈ ls, e.2.fragment.problem? {} = none := by
    intro e member
    rcases List.mem_cons.mp member with rfl | member
    · exact Fragment.problem?_plain rfl rfl
    · rw [List.mem_singleton.mp member]
      exact Fragment.problem?_plain rfl rfl
  exact ⟨_, Graph.compile_eq planned gate_known listed fine (by decide +kernel)⟩

theorem gate_decides :
    ∃ sections, gate.scriptLines gateKind {} (.empty (Path.ofText "/")) = .ok sections ∧
      ∃ chains last, (⟨.ipv4, fun _ => false, by decide⟩ : Packet).Executes (Script.rules sections) "source" 0
        chains .drop last := by
  obtain ⟨a, compiled⟩ := gate_compiled
  have reachable : gate.Reachable .builtin := Graph.Reachable.edits .new _
  obtain ⟨sections, lines, -, decides⟩ := Packet.compiled_rules_decide .builtin reachable gate_known compiled
  obtain ⟨path, d, last, run, -, -, walks⟩ := decides ⟨.ipv4, fun _ => false, by decide⟩ 0
  have graph : gate.normalize.graph = gate := congrArg Analysis.graph gate_analyze
  have drops : d = .drop := by
    refine (walks [sourceId, "wan", "drop"] .drop ?_).symm
    rw [graph]
    exact .moved rfl rfl rfl (.moved rfl rfl rfl (.decided rfl rfl))
  subst drops
  exact ⟨sections, lines, _, last, run⟩

end FilterGraph
