import FilterGraph.Proofs.Alike.Graph

namespace FilterGraph

namespace CycleSearch

structure Alike (s t : CycleSearch) : Prop where
  fresh : s.fresh.Perm t.fresh
  stack : s.stack = t.stack
  removed : s.removed = t.removed

variable {g h : Graph} {s t : CycleSearch}

theorem Alike.step (outgoing : ∀ id, g.outgoing id = h.outgoing id) (alike : s.Alike t) :
    (s.step g).Alike (t.step h) := by
  obtain ⟨fresh, stack, removed⟩ := s
  obtain ⟨others, stack, removed⟩ := t
  obtain ⟨perm, rfl, rfl⟩ := alike
  match stack with
  | [] => exact ⟨perm, rfl, rfl⟩
  | (id, []) :: below => exact ⟨perm, rfl, rfl⟩
  | (id, c :: rest) :: below =>
    simp only [CycleSearch.step, onPath, perm.contains_eq, outgoing]
    split
    · exact ⟨perm, rfl, rfl⟩
    · split
      · exact ⟨perm.erase _, rfl, rfl⟩
      · exact ⟨perm, rfl, rfl⟩

theorem Alike.run_eq (outgoing : ∀ id, g.outgoing id = h.outgoing id) (alike : s.Alike t) : s.run g = t.run h := by
  induction s using run.induct g generalizing t with
  | case1 s done =>
    rw [run, run.eq_def h, dif_pos done, dif_pos (alike.stack ▸ done)]
    exact alike.removed
  | case2 s going ih =>
    rw [run, run.eq_def h, dif_neg going, dif_neg (alike.stack ▸ going)]
    exact ih (alike.step outgoing)

end CycleSearch

namespace Graph

/-- Packets reach the same nodes, these have the same types and parameters, and the same connections leave them. -/
structure SameReach (g h : Graph) : Prop where
  reached : ∀ id, g.Reaches sourceId id ↔ h.Reaches sourceId id
  types : ∀ id n m, g.Reaches sourceId id → g.node? id = some n → h.node? id = some m → n.type.typeId = m.type.typeId
  params : ∀ id n m, g.Reaches sourceId id → g.node? id = some n → h.node? id = some m → n.params = m.params
  connections : ∀ c : Connection, g.Reaches sourceId c.output.node → (c ∈ g.connections ↔ c ∈ h.connections)

section Normalize

variable {r : Registry} {g h : Graph}

theorem Alike.backConnections_eq (alike : g.Alike h) (sound : g.Sound r) : g.backConnections = h.backConnections := by
  have outgoing := alike.outgoing_eq sound
  refine CycleSearch.Alike.run_eq outgoing ⟨alike.ids.filter _, ?_, rfl⟩
  rw [outgoing]

theorem Alike.pruned (alike : g.Alike h) (removed : List Connection) : (g.pruned removed).Alike (h.pruned removed) where
  ids := alike.ids
  types := alike.types
  connections := alike.connections.filter _

namespace SameReach

variable (same : g.SameReach h) (built : r.Built) (left : g.WellFormed r) (right : h.WellFormed r)

include same built left right

theorem type_eq {id : String} {n m : Node} (here : g.node? id = some n) (there : h.node? id = some m)
    (kept : g.Reaches sourceId id ∨ isPermanentId id = true) : n.type = m.type := by
  rcases kept with way | permanent
  · have known := left.types n (node?_mem here).1
    rw [same.types id n m way here there] at known
    exact Option.some.inj (known.symm.trans (right.types m (node?_mem there).1))
  · rcases isPermanentId_iff.mp permanent with source | localhost
    · cases source
      obtain ⟨a, found, type⟩ := left.source_node built
      obtain ⟨b, other, type'⟩ := right.source_node built
      cases found.symm.trans here
      cases other.symm.trans there
      exact type.trans type'.symm
    · cases localhost
      obtain ⟨a, found, type⟩ := left.localhost_node built
      obtain ⟨b, other, type'⟩ := right.localhost_node built
      cases found.symm.trans here
      cases other.symm.trans there
      exact type.trans type'.symm

theorem kept_alike : g.kept.Alike h.kept := by
  constructor
  case ids =>
    refine (List.perm_ext_iff_of_nodup left.kept.ids right.kept.ids).mpr fun id => ?_
    rw [mem_kept_nodeIds_iff left, mem_kept_nodeIds_iff right, same.reached]
  case types =>
    intro id n m here there
    have kept := (mem_kept_nodeIds_iff left).mp (mem_nodeIds.mpr ⟨n, node?_mem here⟩)
    exact same.type_eq built left right (kept_node? left here) (kept_node? right there) kept
  case connections =>
    refine (List.perm_ext_iff_of_nodup left.kept.connections_nodup right.kept.connections_nodup).mpr fun c => ?_
    rw [mem_kept_connections_iff built left, mem_kept_connections_iff built right, ← same.reached]
    exact and_congr_left fun way => same.connections c way

theorem normalize_alike : g.normalize.graph.Alike h.normalize.graph := by
  have kept := same.kept_alike built left right
  have removed : g.normalize.removed = h.normalize.removed := kept.backConnections_eq left.kept.toSound
  rw [normalize_graph left, normalize_graph right, removed]
  exact kept.pruned _

omit built in
/-- The local machine may have other parameters, since packets need not reach it. -/
theorem normalize_params {id : String} {n m : Node} (here : g.normalize.graph.node? id = some n)
    (there : h.normalize.graph.node? id = some m) (other : id ≠ localhostId) : n.params = m.params := by
  have way : g.Reaches sourceId id := by
    rcases (mem_normalize_nodeIds left).mp (mem_nodeIds.mpr ⟨n, node?_mem here⟩) with way | permanent
    · exact way
    · rcases isPermanentId_iff.mp permanent with source | localhost
      · exact source ▸ .refl
      · exact absurd localhost other
  rw [normalize_graph left] at here
  rw [normalize_graph right] at there
  exact same.params id n m way (kept_node? left here) (kept_node? right there)

end SameReach

end Normalize

end Graph
end FilterGraph
