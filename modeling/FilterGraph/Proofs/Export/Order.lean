import FilterGraph.Order
import FilterGraph.Proofs.Export.Plan
import FilterGraph.Proofs.Graph.Authored
import FilterGraph.Proofs.Graph.Ports
import FilterGraph.Proofs.Normalization.Result

namespace FilterGraph.Graph

def FollowsInside (g : Graph) (a b : String) : Prop :=
  g.Follows a b ∧ isPermanentId a = false ∧ isPermanentId b = false

def CyclicInside (g : Graph) : Prop := ∃ id, Relation.TransGen g.FollowsInside id id

def Topological (g : Graph) (order : List String) : Prop :=
  ∀ c ∈ g.connections, order.idxOf c.output.node < order.idxOf c.input.node

theorem exists_cycle {α : Type} {R : α → α → Prop} {rest : List α} (some : rest ≠ [])
    (sender : ∀ b ∈ rest, ∃ a ∈ rest, R a b) : ∃ a, Relation.TransGen R a a := by
  by_contra none
  push Not at none
  have least : ∀ l : List α, l ≠ [] → ∃ b ∈ l, ∀ a ∈ l, ¬ Relation.TransGen R a b := by
    intro l
    induction l with
    | nil => exact fun empty => absurd rfl empty
    | cons first l ih =>
      intro _
      by_cases empty : l = []
      · subst empty
        exact ⟨first, List.mem_cons_self, fun a member => List.mem_singleton.mp member ▸ none a⟩
      · obtain ⟨b, member, minimal⟩ := ih empty
        by_cases below : Relation.TransGen R first b
        · refine ⟨first, List.mem_cons_self, fun a listed way => ?_⟩
          rcases List.mem_cons.mp listed with rfl | later
          · exact none a way
          · exact minimal a later (way.trans below)
        · refine ⟨b, List.mem_cons_of_mem _ member, fun a listed => ?_⟩
          rcases List.mem_cons.mp listed with rfl | later
          · exact below
          · exact minimal a later
  obtain ⟨b, member, minimal⟩ := least rest some
  obtain ⟨a, listed, step⟩ := sender b member
  exact minimal a listed (.single step)

section Ready

variable {r : Registry} {g : Graph} {inner done : List String} {id : String}

theorem count_sent (sound : g.Sound r) (differ : g.PortsDiffer) (distinct : done.Nodup) :
    (done.flatMap g.successors).count id =
      (g.connections.filter fun c => c.input.node == id && done.contains c.output.node).length := by
  have sent := (sound.flatMap_outgoing differ distinct).map (·.input.node)
  have same : done.flatMap g.successors = (done.flatMap g.outgoing).map (·.input.node) := by
    rw [List.map_flatMap]
    rfl
  rw [same, sent.count_eq, List.count_eq_length_filter, List.filter_map, List.length_map, List.filter_filter]
  rfl

theorem mem_senders {ids : List String} {c : Connection} :
    c ∈ g.connections.filter (fun c => c.input.node == id && ids.contains c.output.node) ↔
      c ∈ g.connections ∧ c.input.node = id ∧ c.output.node ∈ ids := by
  simp only [List.mem_filter, Bool.and_eq_true, beq_iff_eq, List.contains_iff_mem]

/-- The done nodes have sent as much to a node as there is to send when all its inner senders are done. -/
theorem inDegree_le_count (sound : g.Sound r) (differ : g.PortsDiffer) (distinct : done.Nodup)
    (inside : done ⊆ inner) :
    g.inDegree inner id ≤ (done.flatMap g.successors).count id ↔ ∀ a ∈ inner, g.Follows a id → a ∈ done := by
  have sublist : (g.connections.filter fun c => c.input.node == id && done.contains c.output.node).Sublist
      (g.connections.filter fun c => c.input.node == id && inner.contains c.output.node) := by
    refine List.monotone_filter_right _ fun c here => ?_
    simp only [Bool.and_eq_true, List.contains_iff_mem] at here ⊢
    exact ⟨here.1, inside here.2⟩
  rw [count_sent sound differ distinct, inDegree]
  constructor
  · rintro full a listed ⟨c, member, rfl, rfl⟩
    have entering := mem_senders.mpr ⟨member, rfl, listed⟩
    rw [← sublist.eq_of_length_le full] at entering
    exact (mem_senders.mp entering).2.2
  · intro senders
    have subset : (g.connections.filter fun c => c.input.node == id && inner.contains c.output.node) ⊆
        g.connections.filter fun c => c.input.node == id && done.contains c.output.node := by
      intro c entering
      obtain ⟨member, input, listed⟩ := mem_senders.mp entering
      exact mem_senders.mpr ⟨member, input, senders _ listed ⟨c, member, rfl, input⟩⟩
    exact (sound.connections_nodup.filter _).length_le_of_subset subset

theorem mem_ready (sound : g.Sound r) (differ : g.PortsDiffer) (distinct : done.Nodup) (inside : done ⊆ inner) :
    id ∈ g.ready inner (done.flatMap g.successors) done ↔
      id ∈ inner ∧ id ∉ done ∧ ∀ a ∈ inner, g.Follows a id → a ∈ done := by
  simp only [ready, List.mem_filter, Bool.and_eq_true, Bool.not_eq_true', decide_eq_true_eq,
    inDegree_le_count sound differ distinct inside, ← Bool.not_eq_true, List.contains_iff_mem]

end Ready

/-- The nodes that are done form an order of their own: every one stands after its inner senders. -/
structure Ordering (g : Graph) (inner done : List String) : Prop where
  distinct : done.Nodup
  inside : done ⊆ inner
  apart : done.Pairwise fun earlier later => ¬ g.Follows later earlier
  closed : ∀ b ∈ done, ∀ a ∈ inner, g.Follows a b → a ∈ done

theorem Ordering.start (g : Graph) (inner : List String) : g.Ordering inner [] where
  distinct := List.nodup_nil
  inside := List.nil_subset _
  apart := .nil
  closed _ member := absurd member List.not_mem_nil

theorem least?_eq_none {le : String → String → Bool} {ids : List String} (none : least? le ids = none) : ids = [] := by
  cases ids with
  | nil => rfl
  | cons id rest =>
    rw [least?] at none
    cases best : least? le rest with
    | none => simp only [best] at none; cases none
    | some other =>
      simp only [best] at none
      split at none <;> cases none

section Ordering

variable {r : Registry} {g : Graph} {inner done : List String} {id : String}

theorem Ordering.step (ordering : g.Ordering inner done) (listed : id ∈ inner)
    (fresh : id ∉ done) (senders : ∀ a ∈ inner, g.Follows a id → a ∈ done) : g.Ordering inner (done ++ [id]) := by
  constructor
  case distinct =>
    exact ordering.distinct.append (List.nodup_singleton id) (by simpa using fresh)
  case inside => exact List.append_subset.mpr ⟨ordering.inside, List.cons_subset.mpr ⟨listed, List.nil_subset _⟩⟩
  case apart =>
    refine List.pairwise_append.mpr ⟨ordering.apart, List.pairwise_singleton _ _, ?_⟩
    intro b member other single step
    rw [List.mem_singleton.mp single] at step
    -- What is done has its senders among what is done, and this node was not.
    exact fresh (ordering.closed b member id listed step)
  case closed =>
    intro b member a inside step
    rcases List.mem_append.mp member with old | new
    · exact List.mem_append_left _ (ordering.closed b old a inside step)
    · rw [List.mem_singleton.mp new] at step
      exact List.mem_append_left _ (senders a inside step)

theorem Ordering.run (sound : g.Sound r) (differ : g.PortsDiffer) (le : String → String → Bool) (left : Nat)
    (ordering : g.Ordering inner done) :
    let found := g.orderFrom le inner left (done.flatMap g.successors) done
    g.Ordering inner (done ++ found) ∧
      (found.length = left ∨ g.ready inner ((done ++ found).flatMap g.successors) (done ++ found) = []) := by
  -- Induction on the steps that are left; what is done grows by one ready node.
  induction left generalizing done with
  | zero => simpa [orderFrom] using ordering
  | succ left ih =>
    rw [orderFrom]
    cases best : least? le (g.ready inner (done.flatMap g.successors) done) with
    | none => simpa using ⟨ordering, least?_eq_none best⟩
    | some id =>
      obtain ⟨listed, fresh, senders⟩ := (mem_ready sound differ ordering.distinct ordering.inside).mp (least?_mem best)
      have next := ih (ordering.step listed fresh senders)
      simp only [List.flatMap_append, List.flatMap_singleton, List.append_assoc, List.singleton_append] at next
      simpa using next

end Ordering

theorem idxOf_lt_idxOf {R : String → String → Prop} {order : List String}
    (apart : order.Pairwise fun earlier later => ¬ R later earlier) {a b : String} (left : a ∈ order) (right : b ∈ order)
    (other : a ≠ b) (step : R a b) : order.idxOf a < order.idxOf b := by
  by_contra late
  have below : order.idxOf b < order.idxOf a := by
    have different : order.idxOf a ≠ order.idxOf b := fun same => other ((List.idxOf_inj left).mp same)
    omega
  have forbidden := List.pairwise_iff_getElem.mp apart _ _ (List.idxOf_lt_length_of_mem right)
    (List.idxOf_lt_length_of_mem left) below
  rw [List.getElem_idxOf, List.getElem_idxOf] at forbidden
  exact forbidden step

section Order

variable {r : Registry} {g : Graph}

theorem Sound.innerIds_nodup (sound : g.Sound r) : g.innerIds.Nodup := sound.ids.filter _

theorem Sound.follows_ne (sound : g.Sound r) {a b : String} (step : g.Follows a b) : a ≠ b := by
  obtain ⟨c, member, rfl, rfl⟩ := step
  obtain ⟨_, _, -, -, other, -⟩ := sound.connections c member
  exact other

theorem Sound.followsInside (sound : g.Sound r) {a b : String} :
    g.FollowsInside a b ↔ a ∈ g.innerIds ∧ b ∈ g.innerIds ∧ g.Follows a b := by
  simp only [FollowsInside, mem_innerIds]
  constructor
  · rintro ⟨step, left, right⟩
    exact ⟨⟨(sound.follows_mem step).1, left⟩, ⟨(sound.follows_mem step).2, right⟩, step⟩
  · rintro ⟨left, right, step⟩
    exact ⟨step, left.2, right.2⟩

theorem not_cyclicInside {order : List String}
    (senders : ∀ a b, g.FollowsInside a b → order.idxOf a < order.idxOf b) : ¬ g.CyclicInside := by
  have later : ∀ {a b}, Relation.TransGen g.FollowsInside a b → order.idxOf a < order.idxOf b := by
    intro a b way
    induction way with
    | single last => exact senders _ _ last
    | tail _ last ih => exact ih.trans (senders _ _ last)
  rintro ⟨id, cycle⟩
  exact absurd (later cycle) (Nat.lt_irrefl _)

theorem Ordering.senders (sound : g.Sound r) {found : List String} (ordering : g.Ordering g.innerIds found)
    (all : g.innerIds ⊆ found) {a b : String} (inside : g.FollowsInside a b) : found.idxOf a < found.idxOf b := by
  obtain ⟨left, right, step⟩ := sound.followsInside.mp inside
  exact idxOf_lt_idxOf ordering.apart (all left) (all right) (sound.follows_ne step) step

/-- When the run stops early, every node that is left has a sender that is left. -/
theorem Ordering.cyclicInside (sound : g.Sound r) (differ : g.PortsDiffer) {found : List String}
    (ordering : g.Ordering g.innerIds found)
    (stuck : g.ready g.innerIds (found.flatMap g.successors) found = []) (early : found.length ≠ g.innerIds.length) :
    g.CyclicInside := by
  let rest := g.innerIds.filter fun id => !found.contains id
  have mem_rest : ∀ {id}, id ∈ rest ↔ id ∈ g.innerIds ∧ id ∉ found := by
    simp only [rest, List.mem_filter, Bool.not_eq_true', ← Bool.not_eq_true, List.contains_iff_mem, implies_true]
  have some : rest ≠ [] := by
    intro none
    have all : g.innerIds ⊆ found := by
      intro id listed
      by_contra missing
      have left := mem_rest.mpr ⟨listed, missing⟩
      rw [none] at left
      exact absurd left List.not_mem_nil
    exact early (Nat.le_antisymm (ordering.distinct.length_le_of_subset ordering.inside)
      (sound.innerIds_nodup.length_le_of_subset all))
  refine exists_cycle some fun b member => ?_
  obtain ⟨listed, missing⟩ := mem_rest.mp member
  have blocked : b ∉ g.ready g.innerIds (found.flatMap g.successors) found := stuck ▸ List.not_mem_nil
  rw [mem_ready sound differ ordering.distinct ordering.inside] at blocked
  push Not at blocked
  obtain ⟨a, inside, step, open'⟩ := blocked listed missing
  exact ⟨a, mem_rest.mpr ⟨inside, open'⟩, sound.followsInside.mpr ⟨inside, listed, step⟩⟩

theorem exportRun_ordering (sound : g.Sound r) (differ : g.PortsDiffer) (colors : Coloring) :
    g.Ordering g.innerIds (g.exportRun colors) ∧ ((g.exportRun colors).length = g.innerIds.length ∨
      g.ready g.innerIds ((g.exportRun colors).flatMap g.successors) (g.exportRun colors) = []) := by
  rw [exportRun]
  have ran := (Ordering.start g g.innerIds).run sound differ (orderLe (g.rankIn colors)) g.innerIds.length
  simpa only [List.flatMap_nil, List.nil_append] using ran

theorem Ordering.perm {found : List String} (ordering : g.Ordering g.innerIds found)
    (complete : found.length = g.innerIds.length) : found.Perm g.innerIds :=
  (List.subperm_of_subset ordering.distinct ordering.inside).perm_of_length_le complete.ge

theorem order_error_iff (sound : g.Sound r) (differ : g.PortsDiffer) (colors : Coloring) :
    (∃ e, g.order colors = .error e) ↔ g.CyclicInside := by
  obtain ⟨ordering, ended⟩ := exportRun_ordering sound differ colors
  rw [order_eq_run]
  split
  case isTrue complete =>
    have all := (ordering.perm complete).symm.subset
    simp [not_cyclicInside fun _ _ => ordering.senders sound all]
  case isFalse early =>
    -- the run stopped before its limit, so no node was ready
    simp [ordering.cyclicInside sound differ (ended.resolve_left early) early]

/-- An order has every node once, the source first and the local machine last, and senders before receivers. -/
structure ExportOrder (g : Graph) (order : List String) : Prop where
  nodes : order.Perm g.nodeIds
  distinct : order.Nodup
  first : order.head? = some sourceId
  last : order.getLast? = some localhostId
  senders : g.Topological order

theorem order_spec (built : r.Built) (wf : g.WellFormed r) (differ : g.PortsDiffer) {colors : Coloring}
    {order : List String} (ordered : g.order colors = .ok order) : g.ExportOrder order := by
  obtain ⟨rfl, -, complete⟩ := order_ok ordered
  obtain ⟨ordering, -⟩ := exportRun_ordering wf.toSound differ colors
  generalize g.exportRun colors = found at ordering complete
  have perm := ordering.perm complete
  have inner : ∀ id ∈ found, isPermanentId id = false :=
    fun id member => (mem_innerIds.mp (ordering.inside member)).2
  have notSource : sourceId ∉ found := fun member => absurd (inner _ member) (by decide)
  have notLocalhost : localhostId ∉ found := fun member => absurd (inner _ member) (by decide)
  have distinct : (sourceId :: found ++ [localhostId]).Nodup := by
    rw [List.cons_append, List.nodup_cons, List.mem_append, List.mem_singleton]
    refine ⟨not_or.mpr ⟨notSource, by decide⟩, ordering.distinct.append (List.nodup_singleton _) ?_⟩
    simpa using notLocalhost
  have apart : (sourceId :: found ++ [localhostId]).Pairwise fun earlier later => ¬ g.Follows later earlier := by
    rw [List.cons_append, List.pairwise_cons, List.pairwise_append]
    refine ⟨fun b _ => wf.source_initial built b, ordering.apart, List.pairwise_singleton _ _, ?_⟩
    intro b _ last single
    rw [List.mem_singleton.mp single]
    exact wf.localhost_terminal built b
  have listed : ∀ {id}, id ∈ sourceId :: found ++ [localhostId] ↔ id ∈ g.nodeIds := by
    intro id
    rw [mem_nodeIds_iff wf, ← perm.mem_iff, List.cons_append, List.mem_cons, List.mem_append, List.mem_singleton]
  constructor
  case nodes => exact (List.perm_ext_iff_of_nodup distinct wf.ids).mpr fun _ => listed
  case distinct => exact distinct
  case first => rfl
  case last => exact List.getLast?_concat
  case senders =>
    intro c member
    have joins := wf.connections c member
    have step : g.Follows c.output.node c.input.node := ⟨c, member, rfl, rfl⟩
    exact idxOf_lt_idxOf apart (listed.mpr joins.output_mem) (listed.mpr joins.input_mem) (wf.toSound.follows_ne step) step

theorem Acyclic.not_cyclicInside (acyclic : g.Acyclic) : ¬ g.CyclicInside := by
  rintro ⟨id, cycle⟩
  exact acyclic id (Relation.TransGen.mono (fun _ _ inside => inside.1) _ _ cycle)

theorem normalize_ordered (built : r.Built) (wf : g.WellFormed r) (differ : g.PortsDiffer) (colors : Coloring) :
    ∃ order, g.normalize.graph.order colors = .ok order := by
  have acyclic : g.normalize.graph.Acyclic := fun id => (normalize_ends built wf id).no_cycle
  have ordered := mt (order_error_iff (normalize_well_formed wf).toSound differ.normalize colors).mp
    acyclic.not_cyclicInside
  cases outcome : g.normalize.graph.order colors with
  | error e => exact absurd ⟨e, outcome⟩ ordered
  | ok order => exact ⟨order, rfl⟩

end Order

/-- Graphs, normalized or not, have an order unless their inner nodes contain a cycle, and normalized ones always
    have one; an order has every node once, senders before receivers. -/
theorem order_result {r : Registry} {g : Graph} (authored : Authored r g) (differ : g.PortsDiffer) :
    (∀ h, h = g ∨ h = g.normalize.graph →
      ((∃ e, h.order h.coloring = .error e) ↔ h.CyclicInside) ∧
        ∀ order, h.order h.coloring = .ok order → h.ExportOrder order) ∧
      ∃ order, g.normalize.graph.order g.normalize.graph.coloring = .ok order := by
  obtain ⟨built, wf⟩ := authored.well_formed
  refine ⟨?_, normalize_ordered built wf differ _⟩
  have spec : ∀ h : Graph, h.WellFormed r → h.PortsDiffer →
      ((∃ e, h.order h.coloring = .error e) ↔ h.CyclicInside) ∧
        ∀ order, h.order h.coloring = .ok order → h.ExportOrder order :=
    fun h wf differ => ⟨order_error_iff wf.toSound differ _, fun _ ordered => order_spec built wf differ ordered⟩
  rintro h (rfl | rfl)
  · exact spec h wf differ
  · exact spec _ (normalize_well_formed wf) differ.normalize

theorem tangle_ordered :
    (∃ e, (Graph.new.edits .builtin tangle).order (Graph.new.edits .builtin tangle).coloring = .error e) ∧
      ∃ order, (Graph.new.edits .builtin tangle).normalize.graph.order
          (Graph.new.edits .builtin tangle).normalize.graph.coloring = .ok order ∧
        (Graph.new.edits .builtin tangle).normalize.graph.ExportOrder order := by
  have authored : Authored .builtin (Graph.new.edits .builtin tangle) := Authored.edits (.new .builtin) tangle
  have differ := authored.well_formed.2.portsDiffer Registry.builtin_portsDiffer
  obtain ⟨spec, order, ordered⟩ := order_result authored differ
  refine ⟨(spec _ (.inl rfl)).1.mpr ⟨"a", ?_⟩, order, ordered, (spec _ (.inr rfl)).2 order ordered⟩
  obtain ⟨there, back⟩ := tangle_follows
  have first : (Graph.new.edits .builtin tangle).FollowsInside "a" "b" := ⟨there, by decide, by decide⟩
  have second : (Graph.new.edits .builtin tangle).FollowsInside "b" "a" := ⟨back, by decide, by decide⟩
  exact .tail (.single first) second

end FilterGraph.Graph
