import FilterGraph.Proofs.Entries
import FilterGraph.Proofs.Sorting
import Mathlib.Data.List.Lex

namespace FilterGraph.Graph

/-- What inner nodes are compared by: nodes with outgoing traffic come later, and then the id decides. -/
def exportKey (g : Graph) (colors : Coloring) (id : String) : ℕ ×ₗ String := toLex (flowRank (colors.flowOf g id), id)

structure InnerOrder (g : Graph) (order : List String) : Prop where
  nodes : order.Perm g.innerIds
  senders : ∀ a b, g.FollowsInside a b → order.idxOf a < order.idxOf b

section Least

variable {r : Registry} {g : Graph} {done rest order : List String} {id : String}

theorem InnerOrder.distinct (sound : g.Sound r) (inner : g.InnerOrder order) : order.Nodup :=
  inner.nodes.nodup_iff.mpr sound.innerIds_nodup

theorem InnerOrder.next_ready (sound : g.Sound r) (differ : g.PortsDiffer)
    (inner : g.InnerOrder (done ++ id :: rest)) :
    id ∈ g.ready g.innerIds (done.flatMap g.successors) done := by
  have distinct := inner.distinct sound
  have fresh : id ∉ done := fun old => (List.nodup_append.mp distinct).2.2 id old id List.mem_cons_self rfl
  have inside : done ⊆ g.innerIds := fun a old => inner.nodes.subset (List.mem_append_left _ old)
  have listed : id ∈ g.innerIds := inner.nodes.subset (List.mem_append_right _ List.mem_cons_self)
  refine (mem_ready sound differ (List.Nodup.of_append_left distinct) inside).mpr ⟨listed, fresh, fun a sender step => ?_⟩
  have before := inner.senders a id (sound.followsInside.mpr ⟨sender, listed, step⟩)
  have place : (done ++ id :: rest).idxOf id = done.length := by
    rw [List.idxOf_append_of_notMem fresh, List.idxOf_cons_self, Nat.add_zero]
  by_contra late
  rw [place, List.idxOf_append_of_notMem late] at before
  omega

/-- From nodes that are done, the run goes on with no more than any order that starts with them. -/
theorem orderFrom_le (sound : g.Sound r) (differ : g.PortsDiffer) (rank : String → Nat) (left : Nat)
    (inner : g.InnerOrder (done ++ rest)) :
    (g.orderFrom (orderLe rank) g.innerIds left (done.flatMap g.successors) done).map (fun id => toLex (rank id, id)) ≤
      rest.map fun id => toLex (rank id, id) := by
  -- Induction on the steps that are left: the two orders agree on what is done, and at the first difference the run is less.
  induction left generalizing done rest with
  | zero => exact not_lt.mp (List.not_lt_nil _)
  | succ left ih =>
    rw [orderFrom]
    cases best : least? (orderLe rank) (g.ready g.innerIds (done.flatMap g.successors) done) with
    | none => exact not_lt.mp (List.not_lt_nil _)
    | some id =>
      cases rest with
      | nil =>
        obtain ⟨member, fresh⟩ := List.mem_filter.mp (least?_mem best)
        have old : id ∈ done := by simpa using inner.nodes.symm.subset member
        simp [old] at fresh
      | cons next rest =>
        have least := least?_le (orderLe_iff rank) best next (inner.next_ready sound differ)
        rcases least.lt_or_eq with less | same
        · exact le_of_lt (List.Lex.rel less)
        · obtain rfl : id = next := (Prod.mk.inj (toLex.injective same)).2
          have later := @ih (done ++ [id]) rest (by simpa using inner)
          rw [List.flatMap_append, List.flatMap_singleton] at later
          exact List.cons_le_cons _ later

theorem rankIn_inside {colors : Coloring} (inside : id ∈ g.innerIds) :
    g.rankIn colors id = flowRank (colors.flowOf g id) := by
  have found := Entries.get?_table (fun id => flowRank (colors.flowOf g id)) g.innerIds id
  simp only [rankIn, found, if_pos inside, Option.getD_some]

theorem map_exportKey {colors : Coloring} {ids : List String} (inside : ids ⊆ g.innerIds) :
    ids.map (fun id => toLex (g.rankIn colors id, id)) = ids.map (g.exportKey colors) :=
  List.map_congr_left fun id member => by rw [exportKey, rankIn_inside (inside member)]

theorem order_inner (sound : g.Sound r) (differ : g.PortsDiffer) {colors : Coloring} (ordered : g.order colors = .ok order) :
    ∃ found, order = sourceId :: found ++ [localhostId] ∧ g.InnerOrder found ∧
      ∀ other, g.InnerOrder other → found.map (g.exportKey colors) ≤ other.map (g.exportKey colors) := by
  obtain ⟨rfl, -, complete⟩ := order_ok ordered
  obtain ⟨ordering, -⟩ := exportRun_ordering sound differ colors
  have perm := ordering.perm complete
  refine ⟨_, rfl, ⟨perm, fun a b => ordering.senders sound perm.symm.subset⟩, fun other inner => ?_⟩
  rw [← map_exportKey perm.subset, ← map_exportKey inner.nodes.subset]
  have least := @orderFrom_le r g [] other sound differ (g.rankIn colors) g.innerIds.length inner
  rwa [List.flatMap_nil] at least

end Least

/-- Inner nodes without a cycle are exported in the least of all the orders in which senders stand before receivers. -/
theorem least_order {r : Registry} {g : Graph} (authored : Authored r g) (differ : g.PortsDiffer)
    (acyclic : ¬ g.CyclicInside) (colors : Coloring) :
    ∃ found, g.order colors = .ok (sourceId :: found ++ [localhostId]) ∧ g.InnerOrder found ∧
      ∀ other, g.InnerOrder other → found.map (g.exportKey colors) ≤ other.map (g.exportKey colors) := by
  obtain ⟨-, wf⟩ := authored.well_formed
  cases outcome : g.order colors with
  | error e => exact absurd ((order_error_iff wf.toSound differ colors).mp ⟨e, outcome⟩) acyclic
  | ok order =>
    obtain ⟨found, rfl, inner⟩ := order_inner wf.toSound differ outcome
    exact ⟨found, rfl, inner⟩

def fork : List Edit :=
  let add (type id : String) : Edit := .add type (some id) [] (.list [.int 0, .int 0])
  let link (a port b : String) : Edit := .connect ⟨⟨a, port⟩, ⟨b, "in"⟩⟩
  [add "core:drop" "b", add "core:accept" "a", add "core:interface_filter" "f", link sourceId "out" "f",
    link "f" "match" "b", link "f" "non-match" "a"]

theorem fork_least_order :
    (Graph.new.edits .builtin fork).innerIds = ["b", "a", "f"] ∧
      (Graph.new.edits .builtin fork).InnerOrder ["f", "b", "a"] ∧
      ∃ found, (Graph.new.edits .builtin fork).order (Graph.new.edits .builtin fork).coloring =
          .ok (sourceId :: found ++ [localhostId]) ∧
        found.map ((Graph.new.edits .builtin fork).exportKey (Graph.new.edits .builtin fork).coloring) ≤
          ["f", "b", "a"].map ((Graph.new.edits .builtin fork).exportKey (Graph.new.edits .builtin fork).coloring) := by
  have authored : Authored .builtin (Graph.new.edits .builtin fork) := Authored.edits (.new .builtin) fork
  have differ := authored.well_formed.2.portsDiffer Registry.builtin_portsDiffer
  have ids : (Graph.new.edits .builtin fork).innerIds = ["b", "a", "f"] := by rfl
  have connections : (Graph.new.edits .builtin fork).connections = [⟨⟨sourceId, "out"⟩, ⟨"f", "in"⟩⟩,
      ⟨⟨"f", "match"⟩, ⟨"b", "in"⟩⟩, ⟨⟨"f", "non-match"⟩, ⟨"a", "in"⟩⟩] := by rfl
  have inner : (Graph.new.edits .builtin fork).InnerOrder ["f", "b", "a"] := by
    constructor
    case nodes =>
      rw [ids]
      decide
    case senders =>
      rintro a b ⟨⟨c, member, rfl, rfl⟩, left, right⟩
      simp only [connections, List.mem_cons, List.not_mem_nil, or_false] at member
      rcases member with rfl | rfl | rfl
      · exact absurd left (by decide)
      · decide
      · decide
  obtain ⟨found, ordered, -, least⟩ := least_order authored differ (not_cyclicInside inner.senders)
    (Graph.new.edits .builtin fork).coloring
  exact ⟨ids, inner, found, ordered, least _ inner⟩

end FilterGraph.Graph
