import FilterGraph.Proofs.Graph.Ports
import FilterGraph.Proofs.Normalization.CycleSearch

namespace FilterGraph.Graph

/-- What the search for cycles removes cuts no node off, and afterwards every way from the source ends. -/
theorem backConnections_spec {r : Registry} {g : Graph} (wf : g.WellFormed r) :
    (∀ c ∈ g.backConnections, c ∈ g.connections) ∧
      ∀ v, g.Reaches sourceId v →
        (g.pruned g.backConnections).Reaches sourceId v ∧ (g.pruned g.backConnections).Ends v := by
  have sound := wf.toSound
  obtain ⟨fresh, inv⟩ := (CycleSearch.start_invariant wf).run sound
  have nothing : ∀ v, v ∉ CycleSearch.path ⟨fresh, [], g.backConnections⟩ := fun v => List.not_mem_nil
  refine ⟨fun c member => (inv.removed c member).1, ?_⟩
  -- the search ends with no path, so the invariant speaks of every visited node as one that was left
  have visited : ∀ v, g.Reaches sourceId v → v ∉ fresh := by
    intro v way
    induction way with
    | refl => exact inv.source
    | tail _ last ih =>
      obtain ⟨c, member, rfl, rfl⟩ := last
      have present := (sound.connections c member).output_mem
      exact (inv.left _ present ih (nothing _)).2 c (sound.mem_outgoing.mpr ⟨member, rfl⟩)
  intro v way
  have present := sound.reaches_mem wf.source way
  exact ⟨inv.reached v present (visited v way), (inv.left v present (visited v way) (nothing v)).1⟩

theorem foldl_unplugged (g : Graph) (removed : List Connection) :
    removed.foldl (fun g c => g.unplugged c.output) g =
      { g with connections := g.connections.filter fun c => !(removed.map (·.output)).contains c.output } := by
  induction removed generalizing g with
  | nil => simp
  | cons c rest ih =>
    rw [List.foldl_cons, ih]
    simp only [unplugged, List.filter_filter, Graph.mk.injEq, and_true, true_and]
    apply List.filter_congr
    intro d _
    simp only [List.map_cons, List.contains_cons, Bool.not_or, bne, Bool.and_comm]

theorem foldl_unplugged_eq_pruned {r : Registry} {g : Graph} (sound : g.Sound r) {removed : List Connection}
    (known : ∀ c ∈ removed, c ∈ g.connections) :
    removed.foldl (fun g c => g.unplugged c.output) g = g.pruned removed := by
  rw [foldl_unplugged, pruned]
  congr 1
  apply List.filter_congr
  intro c member
  have same : c.output ∈ removed.map (·.output) ↔ c ∈ removed := by
    constructor
    · intro listed
      obtain ⟨d, old, output⟩ := List.mem_map.mp listed
      rwa [← List.inj_on_of_nodup_map sound.outputs (known d old) member output]
    · exact fun old => List.mem_map_of_mem old
  simp only [List.contains_eq_mem, same]

def kept (g : Graph) : Graph := g.unreachable.foldl without g

section Kept

variable {r : Registry} {g : Graph}

theorem WellFormed.kept (wf : g.WellFormed r) : g.kept.WellFormed r := by
  have permanent : ∀ id ∈ g.unreachable, isPermanentId id = false :=
    fun id member => ((mem_unreachable wf.toSound).mp member).2.2
  unfold Graph.kept
  generalize g.unreachable = dropped at permanent
  induction dropped generalizing g with
  | nil => exact wf
  | cons id rest ih =>
    exact ih (wf.without (permanent id List.mem_cons_self))
      fun other member => permanent other (List.mem_cons_of_mem _ member)

theorem mem_kept_connections {c : Connection} :
    c ∈ g.kept.connections ↔
      c ∈ g.connections ∧ c.output.node ∉ g.unreachable ∧ c.input.node ∉ g.unreachable := by
  simp only [kept, foldl_without, List.mem_filter, List.contains_eq_mem, Bool.and_eq_true, Bool.not_eq_true',
    decide_eq_false_iff_not]

theorem mem_kept_nodeIds (sound : g.Sound r) {id : String} :
    id ∈ g.kept.nodeIds ↔ id ∈ g.nodeIds ∧ (g.Reaches sourceId id ∨ isPermanentId id = true) := by
  have listed : id ∈ g.kept.nodeIds ↔ id ∈ g.nodeIds ∧ id ∉ g.unreachable := by
    simp only [kept, foldl_without, mem_nodeIds, List.mem_filter, List.contains_eq_mem, Bool.not_eq_true',
      decide_eq_false_iff_not]
    constructor
    · rintro ⟨n, ⟨member, apart⟩, rfl⟩
      exact ⟨⟨n, member, rfl⟩, apart⟩
    · rintro ⟨⟨n, member, rfl⟩, apart⟩
      exact ⟨n, ⟨member, apart⟩, rfl⟩
  rw [listed, mem_unreachable sound, ← Bool.not_eq_true]
  tauto

theorem mem_kept_nodeIds_iff (wf : g.WellFormed r) {id : String} :
    id ∈ g.kept.nodeIds ↔ g.Reaches sourceId id ∨ isPermanentId id = true := by
  rw [mem_kept_nodeIds wf.toSound]
  refine ⟨And.right, fun either => ⟨?_, either⟩⟩
  rcases either with way | permanent
  · exact wf.reaches_mem wf.source way
  · rcases isPermanentId_iff.mp permanent with source | localhost
    · exact source ▸ wf.source
    · exact localhost ▸ wf.localhost

theorem reaches_kept (sound : g.Sound r) {v : String} :
    g.kept.Reaches sourceId v ↔ g.Reaches sourceId v := by
  have stays : ∀ u, g.Reaches sourceId u → u ∉ g.unreachable :=
    fun u way dropped => ((mem_unreachable sound).mp dropped).2.1 way
  constructor
  · intro way
    refine Relation.ReflTransGen.mono ?_ _ _ way
    intro a b step
    obtain ⟨c, member, ends⟩ := step
    exact ⟨c, (mem_kept_connections.mp member).1, ends⟩
  · intro way
    induction way with
    | refl => exact .refl
    | tail way last ih =>
      obtain ⟨c, member, rfl, rfl⟩ := last
      have next := stays _ (way.tail ⟨c, member, rfl, rfl⟩)
      exact ih.tail ⟨c, mem_kept_connections.mpr ⟨member, stays _ way, next⟩, rfl, rfl⟩

/-- Nothing leaves a node that is kept but not reached. -/
theorem mem_kept_connections_iff (built : r.Built) (wf : g.WellFormed r) {c : Connection} :
    c ∈ g.kept.connections ↔ c ∈ g.connections ∧ g.Reaches sourceId c.output.node := by
  have stays : ∀ {id}, g.Reaches sourceId id → id ∉ g.unreachable :=
    fun way dropped => ((mem_unreachable wf.toSound).mp dropped).2.1 way
  rw [mem_kept_connections]
  constructor
  · rintro ⟨member, output, -⟩
    refine ⟨member, ?_⟩
    by_contra away
    have permanent : isPermanentId c.output.node = true := by
      by_contra other
      exact output ((mem_unreachable wf.toSound).mpr
        ⟨(wf.connections c member).output_mem, away, Bool.not_eq_true _ ▸ other⟩)
    rcases isPermanentId_iff.mp permanent with source | localhost
    · exact away (source ▸ .refl)
    · exact wf.localhost_terminal built _ ⟨c, member, localhost, rfl⟩
  · rintro ⟨member, way⟩
    exact ⟨member, stays way, stays (way.tail ⟨c, member, rfl, rfl⟩)⟩

theorem kept_node? (wf : g.WellFormed r) {id : String} {n : Node} (found : g.kept.node? id = some n) :
    g.node? id = some n := by
  obtain ⟨member, rfl⟩ := node?_mem found
  have kept : n ∈ g.kept.nodes := member
  rw [Graph.kept, foldl_without] at kept
  exact wf.toSound.node?_of_mem (List.mem_filter.mp kept).1

theorem kept_node?_of_reached (wf : g.WellFormed r) {id : String} {n : Node} (way : g.Reaches sourceId id)
    (found : g.node? id = some n) : g.kept.node? id = some n := by
  obtain ⟨member, rfl⟩ := node?_mem found
  refine wf.kept.toSound.node?_of_mem ?_
  rw [kept, foldl_without, List.mem_filter, Bool.not_eq_true', List.contains_eq_mem, decide_eq_false_iff_not]
  exact ⟨member, fun dropped => ((mem_unreachable wf.toSound).mp dropped).2.1 way⟩

theorem kept_outgoing (built : r.Built) (wf : g.WellFormed r) {id : String} (way : g.Reaches sourceId id) :
    g.kept.outgoing id = g.outgoing id := by
  obtain ⟨n, found⟩ := node?_isSome (wf.reaches_mem wf.source way)
  rw [outgoing_eq found, outgoing_eq (kept_node?_of_reached wf way found)]
  refine List.filterMap_congr fun ref listed => ?_
  have sender : ref.node = id := (outputRefs_node listed).trans (node?_mem found).2
  have target : g.kept.target? ref = g.target? ref := by
    refine Option.ext fun input => ?_
    rw [target?_eq_some wf.kept.outputs, target?_eq_some wf.outputs, mem_kept_connections_iff built wf, sender]
    exact and_iff_left way
  rw [target]

end Kept

theorem normalize_graph {r : Registry} {g : Graph} (wf : g.WellFormed r) :
    g.normalize.graph = g.kept.pruned g.normalize.removed :=
  foldl_unplugged_eq_pruned wf.kept.toSound (backConnections_spec wf.kept).1

theorem normalize_well_formed {r : Registry} {g : Graph} (wf : g.WellFormed r) :
    g.normalize.graph.WellFormed r := by
  rw [normalize_graph wf]
  exact wf.kept.sublist List.filter_sublist

theorem normalize_ends {r : Registry} {g : Graph} (built : r.Built) (wf : g.WellFormed r) (id : String) :
    g.normalize.graph.Ends id := by
  have result := normalize_well_formed wf
  by_cases way : g.Reaches sourceId id
  · rw [normalize_graph wf]
    exact ((backConnections_spec wf.kept).2 id ((reaches_kept wf.toSound).mpr way)).2
  · -- nothing leaves a node that is not reached: it is the local machine or was dropped
    constructor
    intro next step
    have present := (result.follows_mem step).1
    rw [normalize_graph wf] at present
    have permanent := ((mem_kept_nodeIds wf.toSound).mp present).2.resolve_left way
    rcases isPermanentId_iff.mp permanent with source | localhost
    · exact absurd (source ▸ .refl) way
    · exact absurd (localhost ▸ step) (result.localhost_terminal built next)

theorem normalize_nodes (g : Graph) :
    g.normalize.graph.nodes = g.nodes.filter fun n => !g.normalize.unreachable.contains n.id := by
  simp only [normalize, foldl_unplugged, foldl_without]

theorem PortsDiffer.kept {g : Graph} (differ : g.PortsDiffer) : g.kept.PortsDiffer := by
  intro n member
  rw [Graph.kept, foldl_without] at member
  exact differ n (List.mem_filter.mp member).1

theorem PortsDiffer.normalize {g : Graph} (differ : g.PortsDiffer) : g.normalize.graph.PortsDiffer := by
  intro n member
  rw [normalize_nodes] at member
  exact differ n (List.mem_filter.mp member).1

theorem normalize_connections {r : Registry} {g : Graph} (wf : g.WellFormed r) :
    g.normalize.graph.connections = g.connections.filter fun c =>
      !g.normalize.unreachable.contains c.output.node && !g.normalize.unreachable.contains c.input.node &&
        !g.normalize.removed.contains c := by
  rw [normalize_graph wf, pruned, kept, foldl_without, List.filter_filter]
  apply List.filter_congr
  intro c _
  rw [Bool.and_comm]
  rfl

theorem mem_normalize_nodeIds {r : Registry} {g : Graph} (wf : g.WellFormed r) {id : String} :
    id ∈ g.normalize.graph.nodeIds ↔ g.Reaches sourceId id ∨ isPermanentId id = true := by
  rw [normalize_graph wf]
  exact mem_kept_nodeIds_iff wf

theorem normalize_reaches {r : Registry} {g : Graph} (wf : g.WellFormed r) {id : String} :
    g.normalize.graph.Reaches sourceId id ↔ g.Reaches sourceId id := by
  rw [normalize_graph wf, ← reaches_kept wf.toSound]
  constructor
  · exact Relation.ReflTransGen.mono (fun _ _ => follows_of_pruned) _ _
  · exact fun way => ((backConnections_spec wf.kept).2 id way).1

theorem normalize_eq {g : Graph} (all : g.unreachable = []) (straight : g.backConnections = []) :
    g.normalize = ⟨g, [], []⟩ := by
  simp only [normalize, all, List.foldl_nil, straight]

/-- A normalized graph is acyclic and has the nodes reached from the source and the permanent ones, all but the
    local machine still reached; nodes and connections are those of the graph in their order. -/
theorem normalize_result {r : Registry} {g : Graph} (built : r.Built) (reachable : g.Reachable r) :
    g.normalize.graph.Acyclic ∧
      (∀ id, id ∈ g.normalize.graph.nodeIds ↔ g.Reaches sourceId id ∨ isPermanentId id = true) ∧
      (∀ id ∈ g.normalize.graph.nodeIds, id ≠ localhostId → g.normalize.graph.Reaches sourceId id) ∧
      g.normalize.graph.nodes = g.nodes.filter (fun n => !g.normalize.unreachable.contains n.id) ∧
      g.normalize.unreachable = g.nodeIds.filter (fun id => !g.normalize.graph.nodeIds.contains id) ∧
      g.normalize.graph.connections = g.connections.filter (fun c =>
        !g.normalize.unreachable.contains c.output.node && !g.normalize.unreachable.contains c.input.node &&
          !g.normalize.removed.contains c) ∧
      ∀ c ∈ g.normalize.removed, c ∈ g.connections := by
  have wf := reachable.well_formed built
  refine ⟨fun id => (normalize_ends built wf id).no_cycle, fun id => mem_normalize_nodeIds wf, ?stays,
    g.normalize_nodes, ?dropped, normalize_connections wf, ?removed⟩
  case stays =>
    intro id member other
    rw [normalize_reaches wf]
    rcases (mem_normalize_nodeIds wf).mp member with way | permanent
    · exact way
    · rcases Bool.or_eq_true_iff.mp permanent with source | localhost
      · rw [eq_of_beq source]
        exact .refl
      · exact absurd (eq_of_beq localhost) other
  case dropped =>
    apply List.filter_congr
    intro id _
    rw [← Bool.not_or]
    congr 1
    rw [Bool.eq_iff_iff, Bool.or_eq_true_iff, List.contains_iff_mem, List.contains_iff_mem,
      mem_reachable wf.toSound, mem_normalize_nodeIds wf]
  case removed =>
    intro c member
    exact (mem_kept_connections.mp ((backConnections_spec wf.kept).1 c member)).1

def tangle : List Edit :=
  let add (id : String) : Edit := .add "core:interface_filter" (some id) [] (.list [.int 0, .int 0])
  let link (a port b : String) : Edit := .connect ⟨⟨a, port⟩, ⟨b, "in"⟩⟩
  [add "a", add "b", add "c", add "d", link sourceId "out" "a", link "a" "match" "b",
    link "b" "match" "a", link "b" "non-match" "c", link "c" "match" "a",
    link "c" "non-match" localhostId, link "d" "match" "a"]

theorem tangle_connections : (Graph.new.edits .builtin tangle).connections =
    [⟨⟨sourceId, "out"⟩, ⟨"a", "in"⟩⟩, ⟨⟨"a", "match"⟩, ⟨"b", "in"⟩⟩, ⟨⟨"b", "match"⟩, ⟨"a", "in"⟩⟩,
      ⟨⟨"b", "non-match"⟩, ⟨"c", "in"⟩⟩, ⟨⟨"c", "match"⟩, ⟨"a", "in"⟩⟩,
      ⟨⟨"c", "non-match"⟩, ⟨localhostId, "in"⟩⟩, ⟨⟨"d", "match"⟩, ⟨"a", "in"⟩⟩] := by rfl

theorem tangle_follows :
    (Graph.new.edits .builtin tangle).Follows "a" "b" ∧ (Graph.new.edits .builtin tangle).Follows "b" "a" := by
  refine ⟨⟨⟨⟨"a", "match"⟩, ⟨"b", "in"⟩⟩, ?_, rfl, rfl⟩, ⟨⟨⟨"b", "match"⟩, ⟨"a", "in"⟩⟩, ?_, rfl, rfl⟩⟩ <;>
    simp [tangle_connections]

theorem tangle_normalized :
    ¬ (Graph.new.edits .builtin tangle).Acyclic ∧
      (Graph.new.edits .builtin tangle).normalize.graph.Acyclic ∧
      "d" ∈ (Graph.new.edits .builtin tangle).normalize.unreachable := by
  obtain ⟨acyclic, members, -, -, dropped, -⟩ :=
    normalize_result .builtin (Reachable.edits .new tangle)
  refine ⟨fun none => none "a" ?_, acyclic, ?_⟩
  · obtain ⟨there, back⟩ := tangle_follows
    exact .tail (.single there) back
  · have island : ¬ (Graph.new.edits .builtin tangle).Reaches sourceId "d" := by
      intro way
      rcases Relation.ReflTransGen.cases_tail way with same | ⟨_, _, c, member, -, input⟩
      · exact absurd same (by decide)
      · simp only [tangle_connections, List.mem_cons, List.not_mem_nil, or_false] at member
        rcases member with rfl | rfl | rfl | rfl | rfl | rfl | rfl <;> exact absurd input (by decide)
    have listed : "d" ∈ (Graph.new.edits .builtin tangle).nodeIds := by
      have ids : (Graph.new.edits .builtin tangle).nodeIds = [sourceId, localhostId, "a", "b", "c", "d"] := by rfl
      simp [ids]
    rw [dropped, List.mem_filter, Bool.not_eq_true', ← Bool.not_eq_true, List.contains_iff_mem, members]
    exact ⟨listed, not_or.mpr ⟨island, by decide⟩⟩

end FilterGraph.Graph
