import FilterGraph.Proofs.Normalization.Reachability
import Mathlib.Data.List.Chain
import Mathlib.Logic.Function.Iterate

namespace FilterGraph

namespace Graph

def pruned (g : Graph) (removed : List Connection) : Graph :=
  { g with connections := g.connections.filter fun c => !removed.contains c }

def Ends (g : Graph) (id : String) : Prop := Acc (fun b a => g.Follows a b) id

theorem mem_pruned {g : Graph} {removed : List Connection} {c : Connection} :
    c ∈ (g.pruned removed).connections ↔ c ∈ g.connections ∧ c ∉ removed := by
  simp only [pruned, List.mem_filter, List.contains_eq_mem, Bool.not_eq_true', decide_eq_false_iff_not]

theorem follows_pruned {g : Graph} {removed : List Connection} {a b : String} :
    (g.pruned removed).Follows a b ↔
      ∃ c ∈ g.connections, c ∉ removed ∧ c.output.node = a ∧ c.input.node = b := by
  simp only [Follows, mem_pruned, and_assoc]

theorem follows_of_pruned {g : Graph} {removed : List Connection} {a b : String}
    (step : (g.pruned removed).Follows a b) : g.Follows a b := by
  obtain ⟨c, member, -, ends⟩ := follows_pruned.mp step
  exact ⟨c, member, ends⟩

theorem follows_of_pruned_append {g : Graph} {removed more : List Connection} {a b : String}
    (step : (g.pruned (removed ++ more)).Follows a b) : (g.pruned removed).Follows a b := by
  obtain ⟨c, member, kept, ends⟩ := follows_pruned.mp step
  exact follows_pruned.mpr ⟨c, member, fun old => kept (List.mem_append_left _ old), ends⟩

theorem Ends.append {g : Graph} {removed : List Connection} {id : String}
    (ends : (g.pruned removed).Ends id) (more : List Connection) : (g.pruned (removed ++ more)).Ends id :=
  Subrelation.accessible follows_of_pruned_append ends

theorem Ends.no_cycle {g : Graph} {id : String} (ends : g.Ends id) : ¬ Relation.TransGen g.Follows id id := by
  replace ends := Acc.transGen ends
  induction ends with
  | intro id _ ih =>
    intro cycle
    exact ih id (Relation.transGen_swap.mpr cycle) cycle

end Graph

namespace CycleSearch

def path (s : CycleSearch) : List String := s.stack.map (·.1)

theorem onPath_iff {s : CycleSearch} {id : String} : s.onPath id = true ↔ id ∈ s.path := by
  simp only [onPath, path, List.any_eq_true, List.mem_map, beq_iff_eq]

/-- What a step does with the connection at hand: back to the path, to a node not visited, or to one left before. -/
theorem step_cases (g : Graph) (fresh : List String) (id : String) (c : Connection) (rest : List Connection)
    (below : List (String × List Connection)) (removed : List Connection) :
    (c.input.node ∈ id :: below.map (·.1) ∧
        step g ⟨fresh, (id, c :: rest) :: below, removed⟩ = ⟨fresh, (id, rest) :: below, removed ++ [c]⟩) ∨
      (c.input.node ∉ id :: below.map (·.1) ∧ c.input.node ∈ fresh ∧
        step g ⟨fresh, (id, c :: rest) :: below, removed⟩ =
          ⟨fresh.erase c.input.node, (c.input.node, g.outgoing c.input.node) :: (id, rest) :: below, removed⟩) ∨
      (c.input.node ∉ id :: below.map (·.1) ∧ c.input.node ∉ fresh ∧
        step g ⟨fresh, (id, c :: rest) :: below, removed⟩ = ⟨fresh, (id, rest) :: below, removed⟩) := by
  have onPath := @onPath_iff ⟨fresh, (id, c :: rest) :: below, removed⟩ c.input.node
  by_cases back : c.input.node ∈ id :: below.map (·.1)
  · exact Or.inl ⟨back, if_pos (onPath.mpr back)⟩
  · have off := mt onPath.mp back
    by_cases unseen : c.input.node ∈ fresh
    · exact Or.inr (Or.inl ⟨back, unseen, (if_neg off).trans (if_pos (List.elem_eq_true_of_mem unseen))⟩)
    · exact Or.inr (Or.inr ⟨back, unseen, (if_neg off).trans (if_neg (mt List.mem_of_elem_eq_true unseen))⟩)

/-- A connection of a node on the stack is still to follow, or was removed, or led to a visited node that is
    not on the part of the path that ends there. -/
def Followed (g : Graph) (fresh : List String) (removed : List Connection)
    (stack : List (String × List Connection)) : Prop :=
  ∀ id rest below, (id, rest) :: below <:+ stack → ∀ c ∈ g.outgoing id,
    c ∈ rest ∨ c ∈ removed ∨ c.input.node ∉ fresh ∧ c.input.node ∉ id :: below.map (·.1)

def Pending (g : Graph) (removed : List Connection) (stack : List (String × List Connection)) : Prop :=
  ∀ id rest below, (id, rest) :: below <:+ stack → ∀ c ∈ rest,
    c ∈ g.outgoing id ∧ (c ∈ removed → c.input.node ∈ id :: below.map (·.1))

structure Invariant (g : Graph) (s : CycleSearch) : Prop where
  source : sourceId ∉ s.fresh
  fresh : s.fresh.Nodup
  distinct : s.path.Nodup
  visited : ∀ id ∈ s.path, id ∈ g.nodeIds ∧ id ∉ s.fresh
  linked : s.path.IsChain fun later earlier => (g.pruned s.removed).Follows earlier later
  bottom : ∀ id, s.path.getLast? = some id → id = sourceId
  pending : Pending g s.removed s.stack
  followed : Followed g s.fresh s.removed s.stack
  removed : ∀ c ∈ s.removed, c ∈ g.connections ∧ c.output.node ∉ s.fresh ∧ c.input.node ∉ s.fresh
  left : ∀ id ∈ g.nodeIds, id ∉ s.fresh → id ∉ s.path →
    (g.pruned s.removed).Ends id ∧ ∀ c ∈ g.outgoing id, c.input.node ∉ s.fresh
  reached : ∀ id ∈ g.nodeIds, id ∉ s.fresh → (g.pruned s.removed).Reaches sourceId id

theorem linked_reached {g : Graph} {path : List String}
    (linked : path.IsChain fun later earlier => g.Follows earlier later)
    (bottom : ∀ id, path.getLast? = some id → id = sourceId) : ∀ id ∈ path, g.Reaches sourceId id := by
  induction path with
  | nil => exact fun id member => absurd member List.not_mem_nil
  | cons later path ih =>
    cases path with
    | nil =>
      intro id member
      rw [List.mem_singleton.mp member, bottom later rfl]
      exact .refl
    | cons earlier below =>
      obtain ⟨step, rest⟩ := List.isChain_cons_cons.mp linked
      have reached := ih rest fun id last => bottom id ((List.getLast?_cons_cons).trans last)
      intro id member
      rcases List.mem_cons.mp member with rfl | older
      · exact .tail (reached earlier List.mem_cons_self) step
      · exact reached id older

section Followed

variable {g : Graph} {fresh fewer : List String} {removed more : List Connection} {id : String}
  {c : Connection} {rest : List Connection} {stack below : List (String × List Connection)}

theorem Followed.mono (followed : Followed g fresh removed stack) (visited : fewer ⊆ fresh)
    (known : removed ⊆ more) : Followed g fewer more stack := by
  intro id rest below suffix d leaving
  rcases followed id rest below suffix d leaving with waiting | old | ⟨seen, apart⟩
  · exact Or.inl waiting
  · exact Or.inr (Or.inl (known old))
  · exact Or.inr (Or.inr ⟨fun still => seen (visited still), apart⟩)

theorem Followed.pop (followed : Followed g fresh removed ((id, rest) :: below)) :
    Followed g fresh removed below :=
  fun id rest deeper suffix => followed id rest deeper (suffix.trans (List.suffix_cons _ _))

theorem Followed.advance (followed : Followed g fresh removed ((id, c :: rest) :: below))
    (settled : c ∈ removed ∨ c.input.node ∉ fresh ∧ c.input.node ∉ id :: below.map (·.1)) :
    Followed g fresh removed ((id, rest) :: below) := by
  intro other remaining deeper suffix d leaving
  rcases List.suffix_cons_iff.mp suffix with top | lower
  · cases top
    rcases followed id (c :: rest) below List.suffix_rfl d leaving with waiting | decided
    · rcases List.mem_cons.mp waiting with rfl | later
      · exact Or.inr settled
      · exact Or.inl later
    · exact Or.inr decided
  · exact followed.pop other remaining deeper lower d leaving

theorem Followed.push (followed : Followed g fresh removed stack) (id : String) :
    Followed g fresh removed ((id, g.outgoing id) :: stack) := by
  intro other remaining deeper suffix d leaving
  rcases List.suffix_cons_iff.mp suffix with top | lower
  · cases top
    exact Or.inl leaving
  · exact followed other remaining deeper lower d leaving

theorem Pending.pop (pending : Pending g removed ((id, rest) :: below)) : Pending g removed below :=
  fun id rest deeper suffix => pending id rest deeper (suffix.trans (List.suffix_cons _ _))

theorem Pending.advance (pending : Pending g removed ((id, c :: rest) :: below)) :
    Pending g removed ((id, rest) :: below) := by
  intro other remaining deeper suffix d waiting
  rcases List.suffix_cons_iff.mp suffix with top | lower
  · cases top
    exact pending id (c :: rest) below List.suffix_rfl d (List.mem_cons_of_mem _ waiting)
  · exact pending.pop other remaining deeper lower d waiting

theorem Pending.push (pending : Pending g removed stack)
    (unknown : ∀ c ∈ removed, c.output.node ≠ id) : Pending g removed ((id, g.outgoing id) :: stack) := by
  intro other remaining deeper suffix d waiting
  rcases List.suffix_cons_iff.mp suffix with top | lower
  · cases top
    exact ⟨waiting, fun old => absurd (Graph.outgoing_sound waiting).2 (unknown d old)⟩
  · exact pending other remaining deeper lower d waiting

theorem Pending.cut (pending : Pending g removed ((id, rest) :: below)) (leaving : c.output.node = id)
    (apart : id ∉ below.map (·.1)) (back : c.input.node ∈ id :: below.map (·.1)) :
    Pending g (removed ++ [c]) ((id, rest) :: below) := by
  intro other remaining deeper suffix d waiting
  obtain ⟨listed, onPath⟩ := pending other remaining deeper suffix d waiting
  refine ⟨listed, fun known => ?_⟩
  rcases List.mem_append.mp known with old | new
  · exact onPath old
  · cases List.mem_singleton.mp new
    rcases List.suffix_cons_iff.mp suffix with top | lower
    · cases top
      exact back
    · have same : other = id := (Graph.outgoing_sound listed).2.symm.trans leaving
      have inside : other ∈ below.map (·.1) := List.mem_map_of_mem (lower.subset List.mem_cons_self)
      exact absurd (same ▸ inside) apart

end Followed

section Step

variable {r : Registry} {g : Graph} {fresh : List String} {removed : List Connection} {id : String}
  {c : Connection} {rest : List Connection} {below : List (String × List Connection)}

/-- The node at the end of the path may be left when all its connections were followed. -/
theorem Invariant.leave (sound : g.Sound r) (inv : Invariant g ⟨fresh, (id, []) :: below, removed⟩) :
    Invariant g ⟨fresh, below, removed⟩ := by
  have distinct : (id :: below.map (·.1)).Nodup := inv.distinct
  have settled : ∀ d ∈ g.outgoing id, d ∈ removed ∨ d.input.node ∉ fresh ∧ d.input.node ∉ id :: below.map (·.1) := by
    intro d leaving
    rcases inv.followed id [] below List.suffix_rfl d leaving with waiting | decided
    · exact absurd waiting List.not_mem_nil
    · exact decided
  constructor
  case source => exact inv.source
  case fresh => exact inv.fresh
  case distinct => exact (List.nodup_cons.mp distinct).2
  case visited => exact fun other member => inv.visited other (List.mem_cons_of_mem _ member)
  case linked => exact inv.linked.tail
  case bottom =>
    intro last found
    cases below with
    | nil => cases found
    | cons frame below => exact inv.bottom last (List.getLast?_cons_cons.trans found)
  case pending => exact inv.pending.pop
  case followed => exact inv.followed.pop
  case removed => exact inv.removed
  case reached => exact inv.reached
  -- the node that is left joins those whose ways all end: what it leads to was removed or was left before it
  case left =>
    intro other member seen apart
    by_cases same : other = id
    · subst same
      constructor
      · constructor
        intro next step
        obtain ⟨d, known, kept, output, rfl⟩ := Graph.follows_pruned.mp step
        rcases settled d (sound.mem_outgoing.mpr ⟨known, output⟩) with old | ⟨visited, off⟩
        · exact absurd old kept
        · exact (inv.left _ (sound.connections d known).input_mem visited off).1
      · intro d leaving
        rcases settled d leaving with old | ⟨visited, -⟩
        · exact (inv.removed d old).2.2
        · exact visited
    · exact inv.left other member seen fun onPath => (List.mem_cons.mp onPath).elim same apart

theorem Invariant.skip (inv : Invariant g ⟨fresh, (id, c :: rest) :: below, removed⟩)
    (visited : c.input.node ∉ fresh) (off : c.input.node ∉ id :: below.map (·.1)) :
    Invariant g ⟨fresh, (id, rest) :: below, removed⟩ :=
  { inv with
    pending := inv.pending.advance
    followed := inv.followed.advance (Or.inr ⟨visited, off⟩) }

/-- A connection back to the path may be removed: whatever it led to is reached along the path. -/
theorem Invariant.cut (inv : Invariant g ⟨fresh, (id, c :: rest) :: below, removed⟩)
    (back : c.input.node ∈ id :: below.map (·.1)) :
    Invariant g ⟨fresh, (id, rest) :: below, removed ++ [c]⟩ := by
  have distinct : (id :: below.map (·.1)).Nodup := inv.distinct
  have apart := (List.nodup_cons.mp distinct).1
  have listed := (inv.pending id (c :: rest) below List.suffix_rfl c List.mem_cons_self).1
  obtain ⟨known, leaving⟩ := Graph.outgoing_sound listed
  have survives : ∀ {a b}, (g.pruned removed).Follows a b → b = c.input.node ∨
      (g.pruned (removed ++ [c])).Follows a b := by
    intro a b step
    obtain ⟨d, member, kept, ends⟩ := Graph.follows_pruned.mp step
    by_cases same : d = c
    · exact Or.inl (same ▸ ends.2.symm)
    · refine Or.inr (Graph.follows_pruned.mpr ⟨d, member, fun old => ?_, ends⟩)
      exact (List.mem_append.mp old).elim kept fun new => same (List.mem_singleton.mp new)
  -- the links of the path leave nodes below its end, which the connection does not
  have linked : (id :: below.map (·.1)).IsChain fun later earlier =>
      (g.pruned (removed ++ [c])).Follows earlier later := by
    refine inv.linked.imp_of_mem_tail_imp fun later earlier _ lower step => ?_
    obtain ⟨d, member, kept, output, input⟩ := Graph.follows_pruned.mp step
    refine Graph.follows_pruned.mpr ⟨d, member, fun old => ?_, output, input⟩
    rcases List.mem_append.mp old with old | new
    · exact kept old
    · cases List.mem_singleton.mp new
      rw [← output, leaving] at lower
      exact apart lower
  have onPath := linked_reached linked inv.bottom
  -- the last step of a way may be the removed connection, and then the path leads there as well
  have detour : ∀ v, (g.pruned removed).Reaches sourceId v → (g.pruned (removed ++ [c])).Reaches sourceId v := by
    intro v way
    induction way with
    | refl => exact .refl
    | tail _ last ih =>
      rcases survives last with rfl | step
      · exact onPath _ back
      · exact .tail ih step
  constructor
  case source => exact inv.source
  case fresh => exact inv.fresh
  case distinct => exact distinct
  case visited => exact inv.visited
  case linked => exact linked
  case bottom => exact inv.bottom
  case pending => exact inv.pending.advance.cut leaving apart back
  case followed =>
    have more := inv.followed.mono (List.Subset.refl _) (List.subset_append_left removed [c])
    exact more.advance (Or.inl (List.mem_append_right _ List.mem_cons_self))
  case removed =>
    intro d member
    rcases List.mem_append.mp member with old | new
    · exact inv.removed d old
    · cases List.mem_singleton.mp new
      exact ⟨known, leaving ▸ (inv.visited id List.mem_cons_self).2, (inv.visited _ back).2⟩
  case left =>
    intro other member seen off
    obtain ⟨ends, closed⟩ := inv.left other member seen off
    exact ⟨ends.append [c], closed⟩
  case reached => exact fun other member seen => detour other (inv.reached other member seen)

/-- A connection to a node that was not visited puts that node at the end of the path. -/
theorem Invariant.visit (sound : g.Sound r) (inv : Invariant g ⟨fresh, (id, c :: rest) :: below, removed⟩)
    (off : c.input.node ∉ id :: below.map (·.1)) (unseen : c.input.node ∈ fresh) :
    Invariant g ⟨fresh.erase c.input.node, (c.input.node, g.outgoing c.input.node) :: (id, rest) :: below,
      removed⟩ := by
  obtain ⟨listed, back⟩ := inv.pending id (c :: rest) below List.suffix_rfl c List.mem_cons_self
  obtain ⟨known, leaving⟩ := Graph.outgoing_sound listed
  have kept : c ∉ removed := fun old => off (back old)
  have step : (g.pruned removed).Follows id c.input.node :=
    Graph.follows_pruned.mpr ⟨c, known, kept, leaving, rfl⟩
  have erased : ∀ v, v ∉ fresh.erase c.input.node ↔ v = c.input.node ∨ v ∉ fresh := by
    intro v
    rw [inv.fresh.mem_erase_iff]
    tauto
  have fewer : fresh.erase c.input.node ⊆ fresh := List.erase_subset
  constructor
  case source => exact fun member => inv.source (fewer member)
  case fresh => exact inv.fresh.erase _
  case distinct => exact List.nodup_cons.mpr ⟨off, inv.distinct⟩
  case visited =>
    intro other member
    rcases List.mem_cons.mp member with rfl | older
    · exact ⟨(sound.connections c known).input_mem, (erased _).mpr (Or.inl rfl)⟩
    · obtain ⟨present, seen⟩ := inv.visited other older
      exact ⟨present, (erased _).mpr (Or.inr seen)⟩
  case linked => exact List.isChain_cons_cons.mpr ⟨step, inv.linked⟩
  case bottom =>
    intro last found
    exact inv.bottom last (List.getLast?_cons_cons.symm.trans found)
  case pending =>
    -- what was removed leaves nodes visited before, and this one is fresh
    refine inv.pending.advance.push fun d old same => ?_
    exact (inv.removed d old).2.1 (same ▸ unseen)
  case followed =>
    have seen : c.input.node ∉ fresh.erase c.input.node := (erased _).mpr (Or.inl rfl)
    exact ((inv.followed.mono fewer (List.Subset.refl _)).advance (Or.inr ⟨seen, off⟩)).push _
  case removed =>
    intro d old
    obtain ⟨member, output, input⟩ := inv.removed d old
    exact ⟨member, (erased _).mpr (Or.inr output), (erased _).mpr (Or.inr input)⟩
  case left =>
    intro other member seen apart
    have notNew : other ≠ c.input.node := fun same => apart (same ▸ List.mem_cons_self)
    have old := ((erased other).mp seen).resolve_left notNew
    obtain ⟨ends, closed⟩ := inv.left other member old fun onPath => apart (List.mem_cons_of_mem _ onPath)
    exact ⟨ends, fun d leaving => (erased _).mpr (Or.inr (closed d leaving))⟩
  case reached =>
    intro other member seen
    rcases (erased other).mp seen with rfl | old
    · obtain ⟨present, visited⟩ := inv.visited id List.mem_cons_self
      exact .tail (inv.reached id present visited) step
    · exact inv.reached other member old

end Step

theorem Invariant.step {r : Registry} {g : Graph} (sound : g.Sound r) {s : CycleSearch} (inv : Invariant g s) :
    Invariant g (s.step g) := by
  obtain ⟨fresh, stack, removed⟩ := s
  match stack with
  | [] => exact inv
  | (id, []) :: below => exact inv.leave sound
  | (id, c :: rest) :: below =>
    rcases step_cases g fresh id c rest below removed with ⟨back, next⟩ | ⟨off, unseen, next⟩ | ⟨off, visited, next⟩
    · exact next ▸ inv.cut back
    · exact next ▸ inv.visit sound off unseen
    · exact next ▸ inv.skip visited off

theorem run_ends (g : Graph) (s : CycleSearch) : ∃ n fresh, (step g)^[n] s = ⟨fresh, [], s.run g⟩ := by
  induction s using CycleSearch.run.induct g with
  | case1 s done =>
    obtain ⟨fresh, stack, removed⟩ := s
    cases (done : stack = [])
    rw [CycleSearch.run]
    exact ⟨0, fresh, rfl⟩
  | case2 s going ih =>
    obtain ⟨n, fresh, ended⟩ := ih
    refine ⟨n + 1, fresh, ?_⟩
    rw [Function.iterate_succ_apply, ended, run.eq_def g s, dif_neg going]

theorem run_keeps {g : Graph} {P : CycleSearch → Prop} (kept : ∀ s, P s → P (s.step g)) {s : CycleSearch} (start : P s) :
    ∃ fresh, P ⟨fresh, [], s.run g⟩ := by
  obtain ⟨n, fresh, ended⟩ := run_ends g s
  exact ⟨fresh, ended ▸ Function.Iterate.rec P start kept n⟩

theorem Invariant.run {r : Registry} {g : Graph} (sound : g.Sound r) {s : CycleSearch} (inv : Invariant g s) :
    ∃ fresh, Invariant g ⟨fresh, [], s.run g⟩ :=
  run_keeps (fun _ inv => inv.step sound) inv

theorem run_steps (g : Graph) (n : Nat) (s : CycleSearch) : ((step g)^[n] s).run g = s.run g := by
  induction n generalizing s with
  | zero => rfl
  | succ n ih =>
    rw [Function.iterate_succ_apply, ih]
    by_cases done : s.stack = []
    · rw [step, done]
    · rw [run.eq_def g s, dif_neg done]

theorem run_eq {g : Graph} {s : CycleSearch} (n : Nat) (done : ((step g)^[n] s).stack = []) :
    s.run g = ((step g)^[n] s).removed := by
  rw [← run_steps g n s, run, dif_pos done]

theorem start_invariant {r : Registry} {g : Graph} (wf : g.WellFormed r) :
    Invariant g ⟨g.nodeIds.filter (· != sourceId), [(sourceId, g.outgoing sourceId)], []⟩ := by
  have seen_iff : ∀ id ∈ g.nodeIds, id ∉ g.nodeIds.filter (· != sourceId) → id = sourceId := by
    intro id member seen
    by_contra other
    exact seen (List.mem_filter.mpr ⟨member, bne_iff_ne.mpr other⟩)
  have source : sourceId ∉ g.nodeIds.filter (· != sourceId) := by simp
  constructor
  case source => exact source
  case fresh => exact wf.ids.filter _
  case distinct => exact List.nodup_singleton _
  case visited =>
    intro id member
    rw [List.mem_singleton.mp member]
    exact ⟨wf.source, source⟩
  case linked => exact .singleton _
  case bottom => exact fun id last => (Option.some.inj last).symm
  case pending =>
    have nothing : Pending g [] [] := fun _ _ _ suffix => absurd (List.suffix_nil.mp suffix) (List.cons_ne_nil _ _)
    exact nothing.push fun c old => absurd old List.not_mem_nil
  case followed =>
    have nothing : Followed g (g.nodeIds.filter (· != sourceId)) [] [] :=
      fun _ _ _ suffix => absurd (List.suffix_nil.mp suffix) (List.cons_ne_nil _ _)
    exact nothing.push sourceId
  case removed => exact fun c old => absurd old List.not_mem_nil
  case left =>
    intro id member seen off
    exact absurd (List.mem_singleton.mpr (seen_iff id member seen)) off
  case reached =>
    intro id member seen
    rw [seen_iff id member seen]
    exact .refl

end CycleSearch
end FilterGraph
