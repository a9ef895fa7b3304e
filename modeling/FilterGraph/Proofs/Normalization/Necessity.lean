import FilterGraph.Proofs.Graph.Authored
import FilterGraph.Proofs.Normalization.Result

namespace FilterGraph

namespace CycleSearch

def Passed (s : CycleSearch) (c : Connection) : Prop := c.output.node ∉ s.fresh ∧ ∀ frame ∈ s.stack, c ∉ frame.2

def Leads (g : Graph) (s : CycleSearch) (a b : String) : Prop :=
  ∃ c ∈ g.connections, s.Passed c ∧ c ∉ s.removed ∧ c.output.node = a ∧ c.input.node = b

/-- Such connections make up the path, and lead from the target of every removed connection to its sender. -/
structure Trail (g : Graph) (s : CycleSearch) : Prop extends Invariant g s where
  single : ∀ frame ∈ s.stack, frame.2.Nodup
  once : s.removed.Nodup
  passed : ∀ c ∈ s.removed, s.Passed c
  path : s.path.IsChain fun later earlier => Leads g s earlier later
  back : ∀ c ∈ s.removed, Relation.ReflTransGen (Leads g s) c.input.node c.output.node

section Step

variable {g : Graph} {s : CycleSearch} {c : Connection} {fresh : List String} {removed : List Connection} {id : String}
  {rest : List Connection} {below : List (String × List Connection)}

/-- What is passed stays so, and is removed no more: a step visits a fresh node or removes what is still to follow. -/
theorem Passed.step (passed : s.Passed c) : (s.step g).Passed c ∧ (c ∈ (s.step g).removed → c ∈ s.removed) := by
  obtain ⟨fresh, stack, removed⟩ := s
  obtain ⟨visited, followed⟩ := passed
  match stack with
  | [] => exact ⟨⟨visited, followed⟩, fun old => old⟩
  | (id, []) :: below => exact ⟨⟨visited, fun frame member => followed frame (List.mem_cons_of_mem _ member)⟩, fun old => old⟩
  | (id, d :: rest) :: below =>
    obtain ⟨top, lower⟩ := List.forall_mem_cons.mp followed
    obtain ⟨other, later⟩ := not_or.mp (mt List.mem_cons.mpr top)
    have advanced : ∀ frame ∈ (id, rest) :: below, c ∉ frame.2 := List.forall_mem_cons.mpr ⟨later, lower⟩
    rcases step_cases g fresh id d rest below removed with ⟨-, next⟩ | ⟨-, unseen, next⟩ | ⟨-, -, next⟩
    · rw [next]
      exact ⟨⟨visited, advanced⟩, fun known => (List.mem_append.mp known).resolve_right fun new => other (List.mem_singleton.mp new)⟩
    · rw [next]
      refine ⟨⟨fun still => visited (List.erase_subset still), List.forall_mem_cons.mpr ⟨fun leaving => ?_, advanced⟩⟩, fun old => old⟩
      exact visited ((Graph.outgoing_sound leaving).2 ▸ unseen)
    · rw [next]
      exact ⟨⟨visited, advanced⟩, fun old => old⟩

theorem Leads.step {a b : String} (leads : Leads g s a b) : Leads g (s.step g) a b := by
  obtain ⟨c, member, passed, kept, ends⟩ := leads
  exact ⟨c, member, passed.step.1, fun known => kept (passed.step.2 known), ends⟩

theorem Trail.top (trail : Trail g ⟨fresh, (id, c :: rest) :: below, removed⟩) :
    c ∈ g.outgoing id ∧ (∀ frame ∈ (id, rest) :: below, c ∉ frame.2) ∧ c ∉ removed := by
  have leaving := (trail.pending id (c :: rest) below List.suffix_rfl c List.mem_cons_self).1
  refine ⟨leaving, List.forall_mem_cons.mpr ⟨?_, ?_⟩, fun old => ?_⟩
  · exact (List.nodup_cons.mp (trail.single _ List.mem_cons_self)).1
  · rintro ⟨other, later⟩ member listed
    obtain ⟨above, deeper, split⟩ := List.append_of_mem member
    have suffix : (other, later) :: deeper <:+ (id, c :: rest) :: below := ⟨(id, c :: rest) :: above, by rw [split]; rfl⟩
    have sent := (trail.pending other later deeper suffix c listed).1
    have same : other = id := (Graph.outgoing_sound sent).2.symm.trans (Graph.outgoing_sound leaving).2
    have distinct : (id :: below.map (·.1)).Nodup := trail.distinct
    have inside : other ∈ below.map (·.1) := List.mem_map_of_mem member
    exact (List.nodup_cons.mp distinct).1 (same ▸ inside)
  · exact (trail.passed c old).2 _ List.mem_cons_self List.mem_cons_self

theorem linked_head {R : String → String → Prop} {path : List String}
    (linked : (id :: path).IsChain fun later earlier => R earlier later) :
    ∀ v ∈ id :: path, Relation.ReflTransGen R v id := by
  induction path generalizing id with
  | nil =>
    intro v member
    rw [List.mem_singleton.mp member]
  | cons earlier path ih =>
    obtain ⟨step, rest⟩ := List.isChain_cons_cons.mp linked
    intro v member
    rcases List.mem_cons.mp member with rfl | older
    · exact .refl
    · exact (ih rest v older).tail step

theorem Trail.step {r : Registry} (sound : g.Sound r) (differ : g.PortsDiffer) (trail : Trail g s) :
    Trail g (s.step g) := by
  have invariant := trail.toInvariant.step sound
  have links := trail.path.imp fun _ _ => Leads.step
  have passed : ∀ c ∈ s.removed, (s.step g).Passed c := fun c old => (trail.passed c old).step.1
  have backs : ∀ c ∈ s.removed, Relation.ReflTransGen (Leads g (s.step g)) c.input.node c.output.node :=
    fun c old => Relation.ReflTransGen.mono (fun _ _ => Leads.step) _ _ (trail.back c old)
  obtain ⟨fresh, stack, removed⟩ := s
  match stack with
  | [] => exact trail
  | (id, []) :: below =>
    exact ⟨invariant, fun frame member => trail.single frame (List.mem_cons_of_mem _ member), trail.once, passed,
      links.tail, backs⟩
  | (id, c :: rest) :: below =>
    obtain ⟨leaving, apart, kept⟩ := trail.top
    obtain ⟨known, output⟩ := Graph.outgoing_sound leaving
    have visited : c.output.node ∉ fresh := output ▸ (trail.visited id List.mem_cons_self).2
    obtain ⟨top, lower⟩ := List.forall_mem_cons.mp trail.single
    have single : ∀ frame ∈ (id, rest) :: below, frame.2.Nodup :=
      List.forall_mem_cons.mpr ⟨(List.nodup_cons.mp top).2, lower⟩
    rcases step_cases g fresh id c rest below removed with ⟨back, next⟩ | ⟨-, unseen, next⟩ | ⟨-, -, next⟩
    · rw [next] at invariant links passed backs ⊢
      constructor
      case toInvariant => exact invariant
      case single => exact single
      case once => exact trail.once.append (List.nodup_singleton c) (by simpa using kept)
      case passed => exact List.forall_mem_append.mpr ⟨passed, List.forall_mem_singleton.mpr ⟨visited, apart⟩⟩
      case path => exact links
      case back =>
        -- the path leads from the target to the node at its end, which the connection leaves
        refine List.forall_mem_append.mpr ⟨backs, List.forall_mem_singleton.mpr ?_⟩
        rw [output]
        exact linked_head links _ back
    · rw [next] at invariant links passed backs ⊢
      have link : Leads g ⟨fresh.erase c.input.node, (c.input.node, g.outgoing c.input.node) :: (id, rest) :: below, removed⟩
          id c.input.node := by
        refine ⟨c, known, ⟨fun still => visited (List.erase_subset still), List.forall_mem_cons.mpr ⟨fun sent => ?_, apart⟩⟩,
          kept, output, rfl⟩
        exact visited ((Graph.outgoing_sound sent).2 ▸ unseen)
      constructor
      case toInvariant => exact invariant
      case single => exact List.forall_mem_cons.mpr ⟨Graph.outgoing_nodup differ _, single⟩
      case once => exact trail.once
      case passed => exact passed
      case path => exact List.isChain_cons_cons.mpr ⟨link, links⟩
      case back => exact backs
    · rw [next] at invariant links passed backs ⊢
      exact ⟨invariant, single, trail.once, passed, links, backs⟩

theorem start_trail {r : Registry} (wf : g.WellFormed r) (differ : g.PortsDiffer) :
    Trail g ⟨g.nodeIds.filter (· != sourceId), [(sourceId, g.outgoing sourceId)], []⟩ where
  toInvariant := start_invariant wf
  single := List.forall_mem_singleton.mpr (Graph.outgoing_nodup differ sourceId)
  once := List.nodup_nil
  passed := fun _ old => absurd old List.not_mem_nil
  path := .singleton _
  back := fun _ old => absurd old List.not_mem_nil

end Step

end CycleSearch

namespace Graph

section BackConnections

variable {r : Registry} {g : Graph} {c : Connection}

/-- From the target of a connection that the search has removed, what it has kept leads back to the sender. -/
theorem backConnections_close (wf : g.WellFormed r) (differ : g.PortsDiffer) :
    g.backConnections.Nodup ∧
      ∀ c ∈ g.backConnections, (g.pruned g.backConnections).Reaches c.input.node c.output.node := by
  obtain ⟨fresh, trail⟩ := CycleSearch.run_keeps (fun _ trail => CycleSearch.Trail.step wf.toSound differ trail)
    (CycleSearch.start_trail wf differ)
  refine ⟨trail.once, fun c old => Relation.ReflTransGen.mono ?_ _ _ (trail.back c old)⟩
  rintro a b ⟨d, member, -, kept, ends⟩
  exact follows_pruned.mpr ⟨d, member, kept, ends⟩

theorem backConnections_cyclic (wf : g.WellFormed r) (differ : g.PortsDiffer) (old : c ∈ g.backConnections) :
    Relation.TransGen g.Follows c.output.node c.output.node := by
  have known := (backConnections_spec wf).1 c old
  have way := Relation.ReflTransGen.mono (fun _ _ => follows_of_pruned) _ _ ((backConnections_close wf differ).2 c old)
  exact .head' ⟨c, known, rfl, rfl⟩ way

theorem backConnections_eq_nil (wf : g.WellFormed r) (differ : g.PortsDiffer)
    (acyclic : ∀ c ∈ g.connections, ¬ Relation.TransGen g.Follows c.output.node c.output.node) : g.backConnections = [] :=
  List.eq_nil_iff_forall_not_mem.mpr fun c old =>
    acyclic c ((backConnections_spec wf).1 c old) (backConnections_cyclic wf differ old)

end BackConnections

def joined (g : Graph) (c : Connection) : Graph := { g with connections := g.connections ++ [c] }

section Normalize

variable {r : Registry} {g : Graph} {c : Connection}

theorem removed_closes (wf : g.WellFormed r) (differ : g.PortsDiffer) (old : c ∈ g.normalize.removed) :
    Relation.TransGen (g.normalize.graph.joined c).Follows c.output.node c.output.node := by
  have way := (backConnections_close wf.kept differ.kept).2 c old
  have same : g.kept.pruned g.kept.backConnections = g.normalize.graph := (normalize_graph wf).symm
  rw [same] at way
  have more : ∀ a b, g.normalize.graph.Follows a b → (g.normalize.graph.joined c).Follows a b :=
    fun _ _ ⟨d, member, ends⟩ => ⟨d, List.mem_append_left _ member, ends⟩
  exact .head' ⟨c, List.mem_append_right _ List.mem_cons_self, rfl, rfl⟩ (Relation.ReflTransGen.mono more _ _ way)

theorem removed_eq_nil (built : r.Built) (wf : g.WellFormed r) (differ : g.PortsDiffer)
    (acyclic : ∀ id, g.Reaches sourceId id → ¬ Relation.TransGen g.Follows id id) : g.normalize.removed = [] := by
  refine backConnections_eq_nil wf.kept differ.kept fun c member cycle => ?_
  refine acyclic _ ((mem_kept_connections_iff built wf).mp member).2 (Relation.TransGen.mono ?_ _ _ cycle)
  rintro a b ⟨d, listed, ends⟩
  exact ⟨d, (mem_kept_connections.mp listed).1, ends⟩

theorem mem_normalize_connections (wf : g.WellFormed r) : c ∈ g.normalize.graph.connections ↔
    c ∈ g.kept.connections ∧ c ∉ g.normalize.removed := by
  rw [normalize_graph wf, mem_pruned]

theorem findings_nodup (wf : g.WellFormed r) (differ : g.PortsDiffer) : g.normalize.findings.Nodup := by
  have dropped : g.normalize.unreachable.Nodup := wf.ids.filter _
  have removed : g.normalize.removed.Nodup := (backConnections_close wf.kept differ.kept).1
  refine List.Nodup.append (dropped.map fun a b => Finding.unreachable.inj) (removed.map fun a b => Finding.cycleBroken.inj) ?_
  intro f left right
  obtain ⟨id, -, rfl⟩ := List.mem_map.mp left
  obtain ⟨c, -, same⟩ := List.mem_map.mp right
  cases same

end Normalize

/-- A removed connection alone would close a cycle in the normalized graph, so a graph without a cycle that the source
    reaches keeps all connections between the nodes it reaches. Every dropped node and then every removed connection is
    found once. -/
theorem removed_close_cycles {r : Registry} {g : Graph} (authored : Authored r g) (differ : g.PortsDiffer) :
    (∀ c ∈ g.normalize.removed, c ∉ g.normalize.graph.connections ∧
        Relation.TransGen (g.normalize.graph.joined c).Follows c.output.node c.output.node) ∧
      ((∀ id, g.Reaches sourceId id → ¬ Relation.TransGen g.Follows id id) → g.normalize.removed = [] ∧
        ∀ c ∈ g.connections, g.Reaches sourceId c.output.node → c ∈ g.normalize.graph.connections) ∧
      g.normalize.findings.filter (·.kind == "unreachable") = g.normalize.unreachable.map .unreachable ∧
      g.normalize.findings.filter (·.kind == "cycle_broken") = g.normalize.removed.map .cycleBroken ∧
      g.normalize.findings.length = g.normalize.unreachable.length + g.normalize.removed.length ∧
      g.normalize.findings.Nodup := by
  obtain ⟨built, wf⟩ := authored.well_formed
  refine ⟨fun c old => ⟨fun kept => ((mem_normalize_connections wf).mp kept).2 old, removed_closes wf differ old⟩,
    fun acyclic => ?straight, ?dropped, ?cut, ?count, findings_nodup wf differ⟩
  case straight =>
    have none := removed_eq_nil built wf differ acyclic
    refine ⟨none, fun c member way => (mem_normalize_connections wf).mpr ⟨mem_kept_connections.mpr ⟨member, ?_, ?_⟩, ?_⟩⟩
    · exact fun out => ((mem_unreachable wf.toSound).mp out).2.1 way
    · exact fun out => ((mem_unreachable wf.toSound).mp out).2.1 (way.tail ⟨c, member, rfl, rfl⟩)
    · rw [none]
      exact List.not_mem_nil
  case dropped => simp [Normalization.findings, Finding.kind, List.filter_map, Function.comp_def]
  case cut => simp [Normalization.findings, Finding.kind, List.filter_map, Function.comp_def]
  case count => simp [Normalization.findings]

theorem tangle_removed : (Graph.new.edits .builtin tangle).normalize.removed =
    [⟨⟨"b", "match"⟩, ⟨"a", "in"⟩⟩, ⟨⟨"c", "match"⟩, ⟨"a", "in"⟩⟩] := by
  have dropped : (Graph.new.edits .builtin tangle).unreachable = ["d"] := by decide +kernel
  simp only [normalize, dropped]
  exact (CycleSearch.run_eq 12 (by decide +kernel)).trans (by decide +kernel)

theorem tangle_closed :
    (Graph.new.edits .builtin tangle).normalize.findings.length = 3 ∧
      Relation.TransGen ((Graph.new.edits .builtin tangle).normalize.graph.joined ⟨⟨"c", "match"⟩, ⟨"a", "in"⟩⟩).Follows "c" "c" := by
  have authored : Authored .builtin (Graph.new.edits .builtin tangle) := Authored.edits (.new .builtin) tangle
  have differ := authored.well_formed.2.portsDiffer Registry.builtin_portsDiffer
  obtain ⟨closing, -, -, -, count, -⟩ := removed_close_cycles authored differ
  have dropped : (Graph.new.edits .builtin tangle).normalize.unreachable = ["d"] := by decide +kernel
  rw [dropped, tangle_removed] at count
  exact ⟨count, (closing ⟨⟨"c", "match"⟩, ⟨"a", "in"⟩⟩ (by rw [tangle_removed]; simp)).2⟩

/-- Normalizing again changes nothing and finds nothing. -/
theorem normalize_idempotent {r : Registry} {g : Graph} (authored : Authored r g) (differ : g.PortsDiffer) :
    g.normalize.graph.normalize = ⟨g.normalize.graph, [], []⟩ ∧ g.normalize.graph.normalize.findings = [] := by
  obtain ⟨built, wf⟩ := authored.well_formed
  have result := normalize_well_formed wf
  have all : g.normalize.graph.unreachable = [] := by
    refine List.eq_nil_iff_forall_not_mem.mpr fun id out => ?_
    obtain ⟨member, apart, inner⟩ := (mem_unreachable result.toSound).mp out
    rcases (mem_normalize_nodeIds wf).mp member with way | permanent
    · exact apart ((normalize_reaches wf).mpr way)
    · rw [inner] at permanent
      cases permanent
  have straight : g.normalize.graph.backConnections = [] :=
    backConnections_eq_nil result differ.normalize fun c _ => (normalize_ends built wf c.output.node).no_cycle
  have same := normalize_eq all straight
  exact ⟨same, by rw [same]; rfl⟩

theorem tangle_settled : (Graph.new.edits .builtin tangle).normalize.removed ≠ [] ∧
    (Graph.new.edits .builtin tangle).normalize.graph.normalize = ⟨(Graph.new.edits .builtin tangle).normalize.graph, [], []⟩ := by
  have authored : Authored .builtin (Graph.new.edits .builtin tangle) := Authored.edits (.new .builtin) tangle
  have differ := authored.well_formed.2.portsDiffer Registry.builtin_portsDiffer
  exact ⟨by rw [tangle_removed]; exact List.cons_ne_nil _ _, (normalize_idempotent authored differ).1⟩

end Graph
end FilterGraph
