import FilterGraph.Normalization
import FilterGraph.Proofs.Graph.Path

namespace FilterGraph.Graph

theorem mem_discovered {g : Graph} {id v : String} {fresh : List String} :
    v ∈ g.discovered id fresh ↔ v ∈ fresh ∧ v ∈ g.successors id := by
  simp only [discovered, List.mem_filter, List.contains_eq_mem, decide_eq_true_eq]

theorem mem_undiscovered {g : Graph} {id v : String} {fresh : List String} :
    v ∈ g.undiscovered id fresh ↔ v ∈ fresh ∧ v ∉ g.successors id := by
  simp only [undiscovered, List.mem_filter, List.contains_eq_mem, Bool.not_eq_true', decide_eq_false_iff_not]

theorem queue_found (g : Graph) (fresh queue : List String) : ∀ q ∈ queue, q ∈ g.reachableFrom fresh queue := by
  induction fresh, queue using reachableFrom.induct g with
  | case1 fresh => exact fun q member => absurd member List.not_mem_nil
  | case2 fresh id queue ih =>
    intro q member
    rw [reachableFrom]
    rcases List.mem_cons.mp member with rfl | later
    · exact List.mem_cons_self
    · exact List.mem_cons_of_mem _ (ih q (List.mem_append_left _ later))

theorem found_reached {r : Registry} {g : Graph} (sound : g.Sound r) (fresh queue : List String) :
    ∀ v ∈ g.reachableFrom fresh queue, ∃ q ∈ queue, g.Reaches q v := by
  induction fresh, queue using reachableFrom.induct g with
  | case1 fresh =>
    intro v member
    rw [reachableFrom] at member
    exact absurd member List.not_mem_nil
  | case2 fresh id queue ih =>
    intro v member
    rw [reachableFrom] at member
    rcases List.mem_cons.mp member with rfl | later
    · exact ⟨v, List.mem_cons_self, .refl⟩
    · obtain ⟨q, queued, way⟩ := ih v later
      rcases List.mem_append.mp queued with old | new
      · exact ⟨q, List.mem_cons_of_mem _ old, way⟩
      · have step := sound.mem_successors.mp (mem_discovered.mp new).2
        exact ⟨id, List.mem_cons_self, .head step way⟩

theorem found_closed (g : Graph) (fresh queue : List String) :
    ∀ u ∈ g.reachableFrom fresh queue, ∀ v ∈ g.successors u, v ∈ fresh → v ∈ g.reachableFrom fresh queue := by
  induction fresh, queue using reachableFrom.induct g with
  | case1 fresh =>
    intro u member
    rw [reachableFrom] at member
    exact absurd member List.not_mem_nil
  | case2 fresh id queue ih =>
    intro u member v successor isFresh
    rw [reachableFrom] at member ⊢
    -- a successor of the node at hand is queued now, another one stays fresh and is left to the rest of the search
    by_cases seen : v ∈ g.successors id
    · have queued : v ∈ queue ++ g.discovered id fresh :=
        List.mem_append_right _ (mem_discovered.mpr ⟨isFresh, seen⟩)
      exact List.mem_cons_of_mem _ (g.queue_found _ _ v queued)
    · rcases List.mem_cons.mp member with rfl | later
      · exact absurd successor seen
      · exact List.mem_cons_of_mem _ (ih u later v successor (mem_undiscovered.mpr ⟨isFresh, seen⟩))

theorem mem_reachable {r : Registry} {g : Graph} (sound : g.Sound r) {v : String} :
    v ∈ g.reachable ↔ g.Reaches sourceId v := by
  constructor
  · intro found
    obtain ⟨q, queued, way⟩ := found_reached sound _ _ v found
    rwa [List.mem_singleton.mp queued] at way
  · intro way
    induction way with
    | refl => exact g.queue_found _ _ _ (List.mem_singleton.mpr rfl)
    | @tail u v _ last ih =>
      by_cases source : v = sourceId
      · subst source
        exact g.queue_found _ _ _ (List.mem_singleton.mpr rfl)
      · have isFresh : v ∈ g.nodeIds.filter (· != sourceId) :=
          List.mem_filter.mpr ⟨(sound.follows_mem last).2, by simpa using source⟩
        exact g.found_closed _ _ u ih v (sound.mem_successors.mpr last) isFresh

theorem mem_unreachable {r : Registry} {g : Graph} (sound : g.Sound r) {id : String} :
    id ∈ g.unreachable ↔ id ∈ g.nodeIds ∧ ¬ g.Reaches sourceId id ∧ isPermanentId id = false := by
  simp only [unreachable, List.mem_filter, List.contains_eq_mem, Bool.and_eq_true, Bool.not_eq_true',
    decide_eq_false_iff_not, mem_reachable sound]

theorem foldl_without (g : Graph) (dropped : List String) :
    dropped.foldl without g =
      { g with
        nodes := g.nodes.filter fun n => !dropped.contains n.id
        connections := g.connections.filter fun c =>
          !dropped.contains c.output.node && !dropped.contains c.input.node } := by
  induction dropped generalizing g with
  | nil => simp
  | cons id rest ih =>
    rw [List.foldl_cons, ih]
    simp only [without, List.filter_filter, Graph.mk.injEq, and_true]
    constructor
    · apply List.filter_congr
      intro n _
      simp only [List.contains_cons, Bool.not_or, Bool.and_comm, bne]
    · apply List.filter_congr
      intro c _
      simp only [List.contains_cons, Bool.not_or, bne]
      ac_rfl

end FilterGraph.Graph
