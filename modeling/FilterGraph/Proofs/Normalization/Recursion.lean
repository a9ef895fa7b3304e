import FilterGraph.Proofs.Normalization.Necessity

namespace FilterGraph

structure Exploration (fresh : List String) where
  found : List Connection
  left : List String
  sublist : left.Sublist fresh

namespace Graph

theorem erase_shorter {v : String} {fresh left : List String} (unseen : v ∈ fresh) (fewer : left.Sublist (fresh.erase v)) :
    left.length < fresh.length := by
  have size := List.length_erase_add_one unseen
  have bound := fewer.length_le
  omega

/-- Depth-first search along connections from the node at the head of `path`: those back to the path are found, and from
    a node not visited so far the search goes on along the connections of that node first. -/
def explore (g : Graph) (path fresh : List String) : List Connection → Exploration fresh
  | [] => ⟨[], fresh, List.Sublist.refl fresh⟩
  | c :: rest =>
    if c.input.node ∈ path then
      let later := explore g path fresh rest
      ⟨c :: later.found, later.left, later.sublist⟩
    else if c.input.node ∈ fresh then
      let deeper := explore g (c.input.node :: path) (fresh.erase c.input.node) (g.outgoing c.input.node)
      let later := explore g path deeper.left rest
      ⟨deeper.found ++ later.found, later.left, later.sublist.trans (deeper.sublist.trans List.erase_sublist)⟩
    else explore g path fresh rest
termination_by connections => (fresh.length, connections.length)
decreasing_by
  · exact Prod.Lex.right _ (Nat.lt_succ_self _)
  · exact Prod.Lex.left _ _ (erase_shorter ‹_› (List.Sublist.refl _))
  · exact Prod.Lex.left _ _ (erase_shorter ‹_› deeper.sublist)
  · exact Prod.Lex.right _ (Nat.lt_succ_self _)

theorem explore_visit {g : Graph} {path fresh : List String} {c : Connection} (rest : List Connection)
    (off : c.input.node ∉ path) (unseen : c.input.node ∈ fresh) {deeper : Exploration (fresh.erase c.input.node)}
    (descended : g.explore (c.input.node :: path) (fresh.erase c.input.node) (g.outgoing c.input.node) = deeper) :
    (g.explore path fresh (c :: rest)).found = deeper.found ++ (g.explore path deeper.left rest).found ∧
      (g.explore path fresh (c :: rest)).left = (g.explore path deeper.left rest).left := by
  subst descended
  rw [explore, if_neg off, if_pos unseen]
  exact ⟨rfl, rfl⟩

def depthFirst (g : Graph) : List Connection :=
  (g.explore [sourceId] (g.nodeIds.filter (· != sourceId)) (g.outgoing sourceId)).found

-- Only the nodes inside matter: no connection leads from one of them to a node outside.
theorem explore_congr {g h : Graph} {inside : String → Prop} (same : ∀ id, inside id → g.outgoing id = h.outgoing id)
    (closed : ∀ id, inside id → ∀ c ∈ g.outgoing id, inside c.input.node) (path : List String) {fresh others : List String}
    {connections : List Connection} (within : ∀ c ∈ connections, inside c.input.node) (distinct : fresh.Nodup)
    (distinct' : others.Nodup) (unseen : ∀ id, inside id → (id ∈ fresh ↔ id ∈ others)) :
    (g.explore path fresh connections).found = (h.explore path others connections).found ∧
      ∀ id, inside id → (id ∈ (g.explore path fresh connections).left ↔ id ∈ (h.explore path others connections).left) := by
  induction path, fresh, connections using explore.induct g generalizing others with
  | case1 path fresh =>
    rw [explore, explore]
    exact ⟨rfl, unseen⟩
  | case2 path fresh c rest back ih =>
    obtain ⟨-, further⟩ := List.forall_mem_cons.mp within
    obtain ⟨found, left⟩ := ih further distinct distinct' unseen
    rw [explore, explore, if_pos back, if_pos back]
    exact ⟨congrArg (c :: ·) found, left⟩
  | case3 path fresh c rest off isFresh deeper ih again =>
    obtain ⟨target, further⟩ := List.forall_mem_cons.mp within
    have isFresh' := (unseen _ target).mp isFresh
    have erased : ∀ id, inside id → (id ∈ fresh.erase c.input.node ↔ id ∈ others.erase c.input.node) := by
      intro id member
      rw [distinct.mem_erase_iff, distinct'.mem_erase_iff, unseen id member]
    obtain ⟨found, left⟩ := ih (closed _ target) (distinct.erase _) (distinct'.erase _) erased
    have fewer := (h.explore (c.input.node :: path) (others.erase c.input.node) (g.outgoing c.input.node)).sublist
    obtain ⟨found', left'⟩ := again further (deeper.sublist.nodup (distinct.erase _)) (fewer.nodup (distinct'.erase _)) left
    obtain ⟨here, here'⟩ := explore_visit rest off isFresh rfl
    obtain ⟨there, there'⟩ := explore_visit rest off isFresh' (congrArg (h.explore _ _) (same _ target).symm)
    rw [here, here', there, there']
    exact ⟨congrArg₂ (· ++ ·) found found', left'⟩
  | case4 path fresh c rest off visited ih =>
    obtain ⟨target, further⟩ := List.forall_mem_cons.mp within
    have visited' := mt (unseen _ target).mpr visited
    rw [explore, explore, if_neg off, if_neg off, if_neg visited, if_neg visited']
    exact ih further distinct distinct' unseen

end Graph

namespace CycleSearch

variable (g : Graph) (fresh : List String) (removed : List Connection) (id : String)
  (below : List (String × List Connection))

theorem run_step (g : Graph) (s : CycleSearch) : (s.step g).run g = s.run g := run_steps g 1 s

/-- The search comes past the connections of a node as the recursion does. -/
theorem run_explore (connections : List Connection) :
    run g ⟨fresh, (id, connections) :: below, removed⟩ =
      run g ⟨(g.explore (id :: below.map (·.1)) fresh connections).left, below,
        removed ++ (g.explore (id :: below.map (·.1)) fresh connections).found⟩ := by
  -- The path is all that the recursion sees of the stack, so the rest of it may be anything.
  generalize eq : id :: below.map (·.1) = path
  induction path, fresh, connections using Graph.explore.induct g generalizing id below removed with
  | case1 path fresh =>
    rw [← run_step, Graph.explore, List.append_nil]
    rfl
  | case2 path fresh c rest back ih =>
    subst eq
    obtain ⟨-, next⟩ | ⟨off, -⟩ | ⟨off, -⟩ := step_cases g fresh id c rest below removed
    · rw [← run_step, next, ih _ _ _ rfl, Graph.explore, if_pos back, List.append_assoc]
      rfl
    · exact absurd back off
    · exact absurd back off
  | case3 path fresh c rest off unseen deeper ih again =>
    subst eq
    obtain ⟨back, -⟩ | ⟨-, -, next⟩ | ⟨-, visited, -⟩ := step_cases g fresh id c rest below removed
    · exact absurd back off
    · rw [← run_step, next, ih _ _ _ rfl, again _ _ _ rfl, Graph.explore, if_neg off, if_pos unseen, List.append_assoc]
    · exact absurd unseen visited
  | case4 path fresh c rest off visited ih =>
    subst eq
    obtain ⟨back, -⟩ | ⟨-, unseen, -⟩ | ⟨-, -, next⟩ := step_cases g fresh id c rest below removed
    · exact absurd back off
    · exact absurd unseen visited
    · rw [← run_step, next, ih _ _ _ rfl, Graph.explore, if_neg off, if_neg visited]

theorem backConnections_eq_depthFirst : g.backConnections = g.depthFirst := by
  rw [Graph.backConnections, run_explore, run, dif_pos rfl, List.nil_append]
  rfl

end CycleSearch

structure CycleBreaker where
  graph : Graph
  search : CycleSearch

namespace CycleBreaker

/-- Follows one connection, or leaves the node at the end of the path when it has none left. A connection back to the path
    is taken out of the graph; the lists of those still to follow stay as they are. -/
def step (s : CycleBreaker) : CycleBreaker :=
  match s.search.stack with
  | [] => s
  | (_, []) :: below => { s with search := { s.search with stack := below } }
  | (id, c :: rest) :: below =>
    let target := c.input.node
    if s.search.onPath target then
      { graph := s.graph.unplugged c.output
        search := { s.search with stack := (id, rest) :: below, removed := s.search.removed ++ [c] } }
    else if s.search.fresh.contains target then
      { s with search := { s.search with
          fresh := s.search.fresh.erase target
          stack := (target, s.graph.outgoing target) :: (id, rest) :: below } }
    else { s with search := { s.search with stack := (id, rest) :: below } }

def start (g : Graph) : CycleBreaker :=
  { graph := g, search := { fresh := g.nodeIds.filter (· != sourceId), stack := [(sourceId, g.outgoing sourceId)] } }

def after (g : Graph) (s : CycleSearch) : CycleBreaker :=
  { graph := s.removed.foldl (fun g c => g.unplugged c.output) g, search := s }

theorem outgoing_unplugged {g : Graph} {output : PortRef} {id : String} (other : output.node ≠ id) :
    (g.unplugged output).outgoing id = g.outgoing id := by
  cases found : g.node? id with
  | none =>
    have found' : (g.unplugged output).node? id = none := found
    rw [Graph.outgoing, Graph.outgoing, found, found']
    rfl
  | some n =>
    have found' : (g.unplugged output).node? id = some n := found
    rw [Graph.outgoing_eq found, Graph.outgoing_eq found']
    refine List.filterMap_congr fun ref listed => ?_
    have apart : ref ≠ output := by
      rintro rfl
      exact other ((Graph.outputRefs_node listed).trans (Graph.node?_mem found).2)
    have target : (g.unplugged output).target? ref = g.target? ref := by
      unfold Graph.target? Graph.unplugged
      rw [List.find?_filter]
      congr 2
      funext c
      by_cases here : c.output = ref
      · simp [here, apart]
      · simp [here]
    rw [target]

theorem outgoing_after {g : Graph} {s : CycleSearch} {id : String} (unknown : ∀ c ∈ s.removed, c.output.node ≠ id) :
    (after g s).graph.outgoing id = g.outgoing id := by
  obtain ⟨fresh, stack, removed⟩ := s
  induction removed generalizing g with
  | nil => rfl
  | cons c rest ih =>
    obtain ⟨other, others⟩ := List.forall_mem_cons.mp unknown
    exact (ih others).trans (outgoing_unplugged other)

/-- Taking connections out does not lead the search astray: those of a node that is visited next are all there. -/
theorem step_after {g : Graph} {s : CycleSearch} (inv : CycleSearch.Invariant g s) : (after g s).step = after g (s.step g) := by
  obtain ⟨fresh, stack, removed⟩ := s
  match stack with
  | [] => rfl
  | (id, []) :: below => rfl
  | (id, c :: rest) :: below =>
    -- what was taken out leaves visited nodes, and this one is not visited yet
    have whole : c.input.node ∈ fresh → (after g ⟨fresh, (id, c :: rest) :: below, removed⟩).graph.outgoing c.input.node =
        g.outgoing c.input.node :=
      fun unseen => outgoing_after fun d old same => (inv.removed d old).2.1 (same ▸ unseen)
    unfold after at whole ⊢
    simp only [step, CycleSearch.step]
    split
    case isTrue => rw [List.foldl_append, List.foldl_cons, List.foldl_nil]
    case isFalse =>
      split
      case isTrue unseen => rw [whole (List.mem_of_elem_eq_true unseen)]
      case isFalse => rfl

theorem steps_after {r : Registry} {g : Graph} (wf : g.WellFormed r) (n : Nat) :
    step^[n] (start g) = after g ((CycleSearch.step g)^[n] (start g).search) := by
  induction n with
  | zero => rfl
  | succ n ih =>
    have inv : CycleSearch.Invariant g ((CycleSearch.step g)^[n] (start g).search) :=
      Function.Iterate.rec _ (CycleSearch.start_invariant wf) (fun _ inv => inv.step wf.toSound) n
    rw [Function.iterate_succ_apply', Function.iterate_succ_apply', ih, step_after inv]

end CycleBreaker

namespace Graph

section Reached

variable {r : Registry} {g : Graph}

/-- The recursive search sees nothing of the nodes that the source does not reach. -/
theorem kept_depthFirst (built : r.Built) (wf : g.WellFormed r) : g.kept.depthFirst = g.depthFirst := by
  have inside : ∀ id, g.Reaches sourceId id → ∀ c ∈ g.kept.outgoing id, g.Reaches sourceId c.input.node := by
    intro id way c leaving
    rw [kept_outgoing built wf way] at leaving
    obtain ⟨member, output⟩ := outgoing_sound leaving
    exact way.tail ⟨c, member, output, rfl⟩
  have unseen : ∀ id, g.Reaches sourceId id →
      (id ∈ g.kept.nodeIds.filter (· != sourceId) ↔ id ∈ g.nodeIds.filter (· != sourceId)) := by
    intro id way
    rw [List.mem_filter, List.mem_filter, mem_kept_nodeIds wf.toSound]
    tauto
  have same := (explore_congr (fun id way => kept_outgoing built wf way) inside [sourceId]
    (inside sourceId .refl) (wf.kept.ids.filter _) (wf.ids.filter _) unseen).1
  rw [depthFirst, depthFirst, same, kept_outgoing built wf .refl]

end Reached

/-- The loop that breaks cycles ends, and what it removes is what the recursive depth-first search from the source finds. -/
theorem removed_depth_first {r : Registry} {g : Graph} (authored : Authored r g) :
    (∃ n fresh, CycleBreaker.step^[n] (.start g.kept) = ⟨g.normalize.graph, ⟨fresh, [], g.normalize.removed⟩⟩) ∧
      g.normalize.removed = g.kept.depthFirst ∧ g.kept.depthFirst = g.depthFirst := by
  obtain ⟨built, wf⟩ := authored.well_formed
  refine ⟨?_, CycleSearch.backConnections_eq_depthFirst g.kept, kept_depthFirst built wf⟩
  obtain ⟨n, fresh, ended⟩ := CycleSearch.run_ends g.kept (CycleBreaker.start g.kept).search
  refine ⟨n, fresh, ?_⟩
  rw [CycleBreaker.steps_after wf.kept, ended]
  rfl

theorem tangle_depth_first : (Graph.new.edits .builtin tangle).depthFirst =
    [⟨⟨"b", "match"⟩, ⟨"a", "in"⟩⟩, ⟨⟨"c", "match"⟩, ⟨"a", "in"⟩⟩] := by
  obtain ⟨-, removed, same⟩ := removed_depth_first (Authored.edits (.new .builtin) tangle)
  rw [← same, ← removed, tangle_removed]

end Graph
end FilterGraph
