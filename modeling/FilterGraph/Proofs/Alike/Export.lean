import FilterGraph.Proofs.Alike.Order
import FilterGraph.Proofs.Export.Script
import FilterGraph.Proofs.Graph.Authored
import FilterGraph.Proofs.Packet.Paths

namespace FilterGraph

/-- Analyses from which the same is exported. The local machine, which is not emitted, may have other parameters. -/
structure Analysis.Alike (a b : Analysis) : Prop where
  graph : a.graph.Alike b.graph
  params : ∀ id n m, id ≠ localhostId → a.graph.node? id = some n → b.graph.node? id = some m → n.params = m.params
  flows : ∀ id, a.coloring.flowOf a.graph id = b.coloring.flowOf b.graph id
  order : a.graph.order a.coloring = b.graph.order b.coloring

theorem Graph.SameReach.analyze_alike {r : Registry} {g h : Graph} (same : g.SameReach h) (built : r.Built)
    (left : g.WellFormed r) (right : h.WellFormed r) : g.analyze.Alike h.analyze := by
  have alike := same.normalize_alike built left right
  have sound := (normalize_well_formed left).toSound
  have other := (normalize_well_formed right).toSound
  constructor
  case graph => exact alike
  case params => exact fun id n m apart here there => same.normalize_params left right here there apart
  case flows => exact alike.flowOf_eq sound other
  case order => exact alike.order_eq sound other

namespace Analysis.Alike

variable {a b : Analysis} (alike : a.Alike b)

include alike

theorem node?_cases {id : String} (apart : id ≠ localhostId) :
    a.graph.node? id = none ∧ b.graph.node? id = none ∨
      ∃ n m, a.graph.node? id = some n ∧ b.graph.node? id = some m ∧ n.type = m.type ∧ n.view = m.view := by
  cases here : a.graph.node? id with
  | none =>
    have missing : id ∉ b.graph.nodeIds := fun member => Graph.node?_eq_none.mp here (alike.graph.ids.symm.subset member)
    exact Or.inl ⟨rfl, Graph.node?_eq_none.mpr missing⟩
  | some n =>
    obtain ⟨member, rfl⟩ := Graph.node?_mem here
    obtain ⟨m, there⟩ := Graph.node?_isSome (alike.graph.ids.subset (Graph.mem_nodeIds.mpr ⟨n, member, rfl⟩))
    refine Or.inr ⟨n, m, rfl, there, alike.graph.types _ n m here there, ?_⟩
    rw [Node.view, Node.view, (Graph.node?_mem there).2, alike.params _ n m apart here there]

theorem ofAnalysis_eq : Plan.ofAnalysis b = (Plan.ofAnalysis a).map fun p => { p with analysis := b } := by
  unfold Plan.ofAnalysis
  rw [alike.order]
  cases b.graph.order b.coloring with
  | error e => rfl
  | ok order =>
    cases named : chainNames order <;> simp [named, Bind.bind, Except.bind, Pure.pure, Except.pure, Except.map]

end Analysis.Alike

def Artifact.exported (a : Artifact) : Artifact := { a with analysis? := none }

namespace Plan

section Emit

variable {r : Registry} {p : Plan} {b : Analysis} (alike : p.analysis.Alike b) (sound : p.analysis.graph.Sound r)
  (s : Settings) (files : FileTree)

include alike

theorem site_eq (mark : Nat) (id : String) : p.site s files mark id = { p with analysis := b }.site s files mark id := by
  rw [site, site, alike.flows]

theorem flows_eq : p.flows = { p with analysis := b }.flows := by
  simp only [flows, alike.flows]

include sound

theorem emit_alike {id : String} (apart : id ≠ localhostId) (mark : Nat) :
    p.emit s files mark id = { p with analysis := b }.emit s files mark id := by
  unfold emit
  rcases alike.node?_cases apart with ⟨here, there⟩ | ⟨n, m, here, there, type, view⟩
  · simp only [here, there]
    rfl
  · simp only [here, there, Bind.bind, Except.bind, type, view, alike.graph.incoming_eq sound,
      alike.graph.outgoing_eq sound, site_eq alike s files]

theorem emitAll_alike {nodes : List (String × Nat)} (apart : ∀ node ∈ nodes, node.1 ≠ localhostId) :
    p.emitAll s files nodes = { p with analysis := b }.emitAll s files nodes := by
  induction nodes with
  | nil => rfl
  | cons first rest ih =>
    obtain ⟨id, mark⟩ := first
    obtain ⟨here, later⟩ := List.forall_mem_cons.mp apart
    rw [emitAll, emitAll, emit_alike alike sound s files here, ih later]

theorem artifact_alike (es : List Emission) :
    (p.artifact s es).map Artifact.exported = ({ p with analysis := b }.artifact s es).map Artifact.exported := by
  have script : p.sections s es = { p with analysis := b }.sections s es := by
    simp only [sections, Script.preamble, alike.graph.outgoing_eq sound]
  have assembled : (p.assembled s es).exported = ({ p with analysis := b }.assembled s es).exported := by
    simp only [Plan.assembled, Artifact.exported, script, flows_eq alike]
  unfold artifact
  split
  · rfl
  · exact congrArg Except.ok assembled

end Emit

end Plan

namespace Graph

theorem handOn_congr {n m : Node} (types : n.type = m.type) (views : n.view = m.view) : handOn n = handOn m := by
  obtain ⟨ids, -⟩ := NodeView.mk.inj views
  funext known c
  rw [handOn, handOn, stepOf, stepOf, ids, types, views]

section Alike

variable {r : Registry} {g h : Graph} (alike : g.analyze.Alike h.analyze) (wf : g.normalize.graph.WellFormed r)

include alike wf

theorem compile_alike (s : Settings) (files : FileTree) :
    (g.compile s files).map Artifact.exported = (h.compile s files).map Artifact.exported := by
  unfold compile compilation
  simp only [alike.ofAnalysis_eq]
  cases planned : Plan.ofAnalysis g.analyze with
  | error e => rfl
  | ok p =>
    obtain ⟨analysis, -⟩ := Plan.complete_of_ok wf planned
    have related : p.analysis.Alike h.analyze := analysis ▸ alike
    have sound : p.analysis.graph.Sound r := analysis ▸ wf.toSound
    have apart : ∀ node ∈ p.marked, node.1 ≠ localhostId := by
      rintro ⟨id, mark⟩ member localhost
      cases (localhost : id = localhostId)
      exact absurd (Plan.mem_marked.mp member).2 (by decide)
    have moved : Except.map (fun p : Plan => { p with analysis := h.analyze }) (.ok p : Except ExportError Plan) =
        .ok { p with analysis := h.analyze } := rfl
    have marked : { p with analysis := h.analyze }.marked = p.marked := rfl
    simp only [moved, marked, ← Plan.emitAll_alike related sound s files apart]
    cases (p.emitAll s files p.marked).2 with
    | some e => rfl
    | none =>
      simp only
      exact Plan.artifact_alike related sound s _

theorem packetPaths_alike (built : r.Built) : g.packetPaths = h.packetPaths := by
  have graph : g.normalize.graph.Alike h.normalize.graph := alike.graph
  have ordered : g.normalize.graph.order g.normalize.graph.coloring =
      h.normalize.graph.order h.normalize.graph.coloring := alike.order
  have terminal : g.normalize.graph.isTerminal = h.normalize.graph.isTerminal := by
    funext id
    have same := graph.map_node? (f := fun n => n.type.isTerminal) (fun n m _ types => by rw [types]) id
    have any := congrArg (Option.any fun terminal => terminal) same
    rwa [Option.any_map, Option.any_map] at any
  have reaching : ∀ order, g.normalize.graph.reaching order = h.normalize.graph.reaching order := by
    intro order
    have outgoing : g.normalize.graph.outgoing = h.normalize.graph.outgoing := funext (graph.outgoing_eq wf.toSound)
    rw [reaching_eq, reaching_eq, ← outgoing]
    refine foldlM_congr (fun c sent known => ?_) _
    obtain ⟨id, -, leaving⟩ := List.mem_flatMap.mp sent
    -- The local machine may have other parameters, but no connection leaves it.
    have apart : c.output.node ≠ localhostId :=
      fun localhost => wf.localhost_terminal built _ ⟨c, (outgoing_sound leaving).1, localhost, rfl⟩
    rcases alike.node?_cases apart with ⟨here, there⟩ | ⟨n, m, here, there, types, views⟩
    · have here : g.normalize.graph.node? c.output.node = none := here
      have there : h.normalize.graph.node? c.output.node = none := there
      rw [pass, pass, here, there]
    · have here : g.normalize.graph.node? c.output.node = some n := here
      have there : h.normalize.graph.node? c.output.node = some m := there
      simp only [pass, here, there, handOn_congr types views]
  unfold packetPaths
  simp only [ordered, reaching, terminals_eq, terminal]

end Alike

/-- Graphs of which packets reach the same part are compiled to the same export, or fail for the same reason, and have
    the same packet paths. -/
theorem export_of_same_reach {r : Registry} {g h : Graph} (left : Authored r g) (right : Authored r h)
    (same : g.SameReach h) (s : Settings) (files : FileTree) :
    (g.compile s files).map Artifact.exported = (h.compile s files).map Artifact.exported ∧
      g.packetPaths = h.packetPaths := by
  obtain ⟨built, wf⟩ := left.well_formed
  obtain ⟨-, other⟩ := right.well_formed
  have alike := same.analyze_alike built wf other
  have normal := normalize_well_formed wf
  exact ⟨compile_alike alike normal s files, packetPaths_alike alike normal built⟩

def gated : List Edit :=
  [.add "core:interface_filter" (some "a") [("interface", .text "eth0")] (.list [.int 0, .int 0]),
    .connect ⟨⟨sourceId, "out"⟩, ⟨"a", "in"⟩⟩, .connect ⟨⟨"a", "match"⟩, ⟨localhostId, "in"⟩⟩]

def gatedAside : List Edit :=
  [.add "core:interface_filter" (some "island") [] (.list [.int 0, .int 0]),
    .add "core:interface_filter" (some "a") [("interface", .text "eth0")] (.list [.int 7, .int 9]),
    .connect ⟨⟨"island", "match"⟩, ⟨"a", "in"⟩⟩, .connect ⟨⟨"a", "match"⟩, ⟨localhostId, "in"⟩⟩,
    .connect ⟨⟨sourceId, "out"⟩, ⟨"a", "in"⟩⟩]

theorem gated_same_export :
    (Graph.new.edits .builtin gated).nodeIds ≠ (Graph.new.edits .builtin gatedAside).nodeIds ∧
      ((Graph.new.edits .builtin gated).compile {} (.empty (Path.ofText "/"))).map Artifact.exported =
        ((Graph.new.edits .builtin gatedAside).compile {} (.empty (Path.ofText "/"))).map Artifact.exported ∧
      (Graph.new.edits .builtin gated).packetPaths = (Graph.new.edits .builtin gatedAside).packetPaths := by
  let entry : Connection := ⟨⟨sourceId, "out"⟩, ⟨"a", "in"⟩⟩
  let exit : Connection := ⟨⟨"a", "match"⟩, ⟨localhostId, "in"⟩⟩
  let stray : Connection := ⟨⟨"island", "match"⟩, ⟨"a", "in"⟩⟩
  have straight : (Graph.new.edits .builtin gated).connections = [entry, exit] := by rfl
  have aside : (Graph.new.edits .builtin gatedAside).connections = [stray, exit, entry] := by rfl
  have reached : ∀ {g : Graph}, entry ∈ g.connections → exit ∈ g.connections → g.connections ⊆ [stray, exit, entry] →
      ∀ id, g.Reaches sourceId id ↔ id ∈ [sourceId, "a", localhostId] := by
    intro g first last only id
    have toA : g.Reaches sourceId "a" := .single ⟨entry, first, rfl, rfl⟩
    constructor
    · intro way
      induction way with
      | refl => decide
      | tail _ step ih =>
        obtain ⟨c, member, rfl, rfl⟩ := step
        have known := only member
        simp only [List.mem_cons, List.not_mem_nil, or_false] at known
        rcases known with rfl | rfl | rfl
        · decide
        · decide
        · decide
    · intro listed
      simp only [List.mem_cons, List.not_mem_nil, or_false] at listed
      rcases listed with rfl | rfl | rfl
      · exact .refl
      · exact toA
      · exact toA.tail ⟨exit, last, rfl, rfl⟩
  have here := reached (g := Graph.new.edits .builtin gated) (by simp [straight]) (by simp [straight]) (by simp [straight])
  have there := reached (g := Graph.new.edits .builtin gatedAside) (by simp [aside]) (by simp [aside]) (by simp [aside])
  have same : (Graph.new.edits .builtin gated).SameReach (Graph.new.edits .builtin gatedAside) := by
    constructor
    case reached => exact fun id => (here id).trans (there id).symm
    case types =>
      intro id n m way left right
      have listed := (here id).mp way
      simp only [List.mem_cons, List.not_mem_nil, or_false] at listed
      rcases listed with rfl | rfl | rfl <;> cases left <;> cases right <;> rfl
    case params =>
      intro id n m way left right
      have listed := (here id).mp way
      simp only [List.mem_cons, List.not_mem_nil, or_false] at listed
      rcases listed with rfl | rfl | rfl <;> cases left <;> cases right <;> rfl
    case connections =>
      intro c way
      have listed := (here _).mp way
      have island : c ≠ stray := by
        rintro rfl
        exact absurd listed (by decide)
      simp [straight, aside, island, or_comm]
  have authored : ∀ es, Authored .builtin (Graph.new.edits .builtin es) := fun es => Authored.edits (.new .builtin) es
  refine ⟨by decide +kernel, ?_⟩
  exact export_of_same_reach (authored gated) (authored gatedAside) same {} (.empty (Path.ofText "/"))

end Graph
end FilterGraph
