import FilterGraph.Artifact
import FilterGraph.Proofs.Graph.WellFormed
import FilterGraph.Proofs.Outcome
import Mathlib.Data.List.Induction
import Mathlib.Data.List.Perm.Subperm

namespace FilterGraph

/-- The node stands behind another one whose chain has the same name, and is the first of the order to do so. -/
inductive FirstTaken (order : List String) (id owner : String) : Prop
  | intro {before after : List String} (split : order = before ++ id :: after) (distinct : (before.map chainName).Nodup)
      (earlier : owner ∈ before) (same : chainName owner = chainName id)

section Chains

variable {order : List String} {id owner : String}

def withChain (id : String) : String × String := (id, chainName id)

theorem FirstTaken.not_nodup (taken : FirstTaken order id owner) : ¬ (order.map chainName).Nodup := by
  obtain ⟨rfl, -, earlier, same⟩ := taken
  intro distinct
  rw [List.map_append] at distinct
  exact List.disjoint_of_nodup_append distinct (List.mem_map_of_mem earlier) (same ▸ List.mem_cons_self)

theorem FirstTaken.exists (clash : ¬ (order.map chainName).Nodup) : ∃ id owner, FirstTaken order id owner := by
  induction order using List.reverseRecOn with
  | nil => exact absurd List.nodup_nil clash
  | append_singleton before id ih =>
    by_cases distinct : (before.map chainName).Nodup
    · have taken : chainName id ∈ before.map chainName := by
        by_contra fresh
        refine clash ?_
        rw [List.map_append, List.map_singleton]
        exact distinct.append (List.nodup_singleton _) (List.disjoint_singleton.mpr fresh)
      obtain ⟨owner, earlier, same⟩ := List.mem_map.mp taken
      exact ⟨id, owner, rfl, distinct, earlier, same⟩
    · obtain ⟨id', owner, rfl, distinct', earlier, same⟩ := ih distinct
      exact ⟨id', owner, by rw [List.append_assoc, List.cons_append], distinct', earlier, same⟩

def nameChain (known : Entries String String) (id : String) : Except ExportError (Entries String String) :=
  match known.find? (·.2 == chainName id) with
  | some (owner, _) => .error ⟨some id, .chainTaken (chainName id) owner⟩
  | none => .ok (known ++ [withChain id])

theorem chainNames_append (before rest : List String) :
    chainNames (before ++ rest) = (chainNames before).bind fun known => rest.foldlM nameChain known :=
  List.foldlM_append

theorem find?_withChain (before : List String) (name : String) :
    (before.map withChain).find? (·.2 == name) = (before.find? fun id => chainName id == name).map withChain :=
  List.find?_map

theorem chainNames_of_nodup (distinct : (order.map chainName).Nodup) : chainNames order = .ok (order.map withChain) := by
  induction order using List.reverseRecOn with
  | nil => rfl
  | append_singleton before id ih =>
    rw [List.map_append, List.map_singleton] at distinct
    have fresh : before.find? (fun other => chainName other == chainName id) = none := by
      rw [List.find?_eq_none]
      intro other member same
      refine List.disjoint_of_nodup_append distinct (List.mem_map_of_mem member) ?_
      exact List.mem_singleton.mpr (eq_of_beq same)
    rw [chainNames_append, ih (List.nodup_append.mp distinct).1, Except.bind, List.foldlM_cons, nameChain, find?_withChain, fresh,
      List.map_append]
    rfl

theorem chainNames_of_taken (taken : FirstTaken order id owner) :
    chainNames order = .error ⟨some id, .chainTaken (chainName id) owner⟩ := by
  obtain @⟨before, after, rfl, distinct, earlier, same⟩ := taken
  rw [chainNames_append, chainNames_of_nodup distinct, Except.bind, List.foldlM_cons, nameChain, find?_withChain]
  cases found : before.find? fun other => chainName other == chainName id with
  | none => exact absurd (beq_iff_eq.mpr same) (List.find?_eq_none.mp found owner earlier)
  | some other =>
    -- chains before have different names, so the owner is the only one
    have name := List.find?_some found
    have only : other = owner :=
      List.inj_on_of_nodup_map distinct (List.mem_of_find?_eq_some found) earlier ((eq_of_beq name).trans same.symm)
    rw [only]
    rfl

theorem chainNames_ok {chains : Entries String String} (done : chainNames order = .ok chains) :
    chains = order.map withChain ∧ (order.map chainName).Nodup := by
  by_cases distinct : (order.map chainName).Nodup
  · rw [chainNames_of_nodup distinct] at done
    exact ⟨(Except.ok.inj done).symm, distinct⟩
  · obtain ⟨id, owner, taken⟩ := FirstTaken.exists distinct
    rw [chainNames_of_taken taken] at done
    cases done

end Chains

namespace Graph

theorem least?_mem {le : String → String → Bool} {ids : List String} {id : String}
    (found : least? le ids = some id) : id ∈ ids := by
  induction ids generalizing id with
  | nil => cases found
  | cons first rest ih =>
    rw [least?] at found
    cases best : least? le rest with
    | none =>
      simp only [best] at found
      cases found
      exact List.mem_cons_self
    | some other =>
      simp only [best] at found
      split at found
      · cases found
        exact List.mem_cons_self
      · cases found
        exact List.mem_cons_of_mem _ (ih best)

theorem orderFrom_subset (g : Graph) (le : String → String → Bool) (inner : List String) (left : Nat)
    (sent done : List String) : g.orderFrom le inner left sent done ⊆ inner := by
  induction left generalizing sent done with
  | zero => exact List.nil_subset _
  | succ left ih =>
    rw [orderFrom]
    cases found : least? le (g.ready inner sent done) with
    | none => exact List.nil_subset _
    | some id =>
      have member : id ∈ inner := (List.mem_filter.mp (least?_mem found)).1
      exact List.cons_subset.mpr ⟨member, ih _ _⟩

def rankIn (g : Graph) (colors : Coloring) (id : String) : Nat :=
  (Entries.get? id (g.innerIds.map fun id => (id, flowRank (colors.flowOf g id)))).getD 0

def exportRun (g : Graph) (colors : Coloring) : List String :=
  g.orderFrom (orderLe (g.rankIn colors)) g.innerIds g.innerIds.length [] []

theorem order_eq_run (g : Graph) (colors : Coloring) : g.order colors =
    if (g.exportRun colors).length = g.innerIds.length then .ok (sourceId :: g.exportRun colors ++ [localhostId])
    else .error ⟨none, .cyclic (g.exportRun colors).length g.innerIds.length⟩ := rfl

theorem order_ok {g : Graph} {colors : Coloring} {order : List String} (ordered : g.order colors = .ok order) :
    order = sourceId :: g.exportRun colors ++ [localhostId] ∧ g.exportRun colors ⊆ g.innerIds ∧
      (g.exportRun colors).length = g.innerIds.length := by
  rw [order_eq_run] at ordered
  split at ordered
  case isTrue complete =>
    cases ordered
    exact ⟨rfl, orderFrom_subset _ _ _ _ _ _, complete⟩
  case isFalse => cases ordered

theorem mem_innerIds {g : Graph} {id : String} :
    id ∈ g.innerIds ↔ id ∈ g.nodeIds ∧ isPermanentId id = false := by
  simp only [innerIds, List.mem_filter, Bool.not_eq_true']

theorem mem_nodeIds_iff {r : Registry} {g : Graph} (wf : g.WellFormed r) {id : String} :
    id ∈ g.nodeIds ↔ id = sourceId ∨ id ∈ g.innerIds ∨ id = localhostId := by
  rw [mem_innerIds]
  constructor
  · intro member
    by_cases permanent : isPermanentId id = true
    · rcases isPermanentId_iff.mp permanent with source | localhost
      · exact Or.inl source
      · exact Or.inr (Or.inr localhost)
    · exact Or.inr (Or.inl ⟨member, Bool.not_eq_true _ ▸ permanent⟩)
  · rintro (rfl | ⟨member, -⟩ | rfl)
    · exact wf.source
    · exact member
    · exact wf.localhost

end Graph

namespace Plan

/-- Every node is in the order, and its chain is named after it alone. -/
structure Complete (p : Plan) : Prop where
  chains : p.chains = p.order.map fun id => (id, chainName id)
  names : (p.order.map chainName).Nodup
  ids : ∀ id, id ∈ p.order ↔ id ∈ p.analysis.graph.nodeIds
  first : p.order.head? = some sourceId

theorem mem_marked {p : Plan} {id : String} {mark : Nat} :
    (id, mark) ∈ p.marked ↔ p.order[mark]? = some id ∧ isPermanentId id = false := by
  simp only [marked, List.mem_filter, List.mem_zipIdx_iff_getElem?, Bool.not_eq_true']

section Complete

variable {p : Plan} (complete : p.Complete)

include complete

theorem Complete.order_nodup : p.order.Nodup := List.Nodup.of_map _ complete.names

theorem Complete.chain_injective {a b : String} (left : a ∈ p.order) (right : b ∈ p.order)
    (same : chainName a = chainName b) : a = b :=
  List.inj_on_of_nodup_map complete.names left right same

theorem Complete.get?_chains {id chain : String} :
    p.chains.get? id = some chain ↔ id ∈ p.order ∧ chain = chainName id := by
  rw [complete.chains]
  generalize p.order = order
  induction order with
  | nil => simp [Entries.get?]
  | cons first rest ih =>
    rw [Entries.get?] at ih ⊢
    by_cases same : id = first
    · subst same
      simp [eq_comm]
    · have apart : (id == first) = false := beq_false_of_ne same
      simp only [List.map_cons, List.lookup_cons, apart, ih, List.mem_cons, same, false_or]

theorem Complete.idxOf_marked {id : String} {mark : Nat} (marked : (id, mark) ∈ p.marked) :
    p.order.idxOf id = mark := by
  obtain ⟨bound, rfl⟩ := List.getElem?_eq_some_iff.mp (mem_marked.mp marked).1
  exact complete.order_nodup.idxOf_getElem mark bound

theorem Complete.marked_nodup : (p.marked.map (·.1)).Nodup := by
  have sublist : (p.marked.map (·.1)).Sublist p.order := by
    have kept : (p.marked.map (·.1)).Sublist (p.order.zipIdx.map (·.1)) := List.filter_sublist.map _
    rwa [List.zipIdx_map_fst] at kept
  exact sublist.nodup complete.order_nodup

end Complete

theorem complete_of_ok {r : Registry} {a : Analysis} (wf : a.graph.WellFormed r) {p : Plan}
    (planned : Plan.ofAnalysis a = .ok p) : p.analysis = a ∧ p.Complete := by
  obtain ⟨order, ordered, planned⟩ := bind_ok planned
  obtain ⟨chains, named, planned⟩ := bind_ok planned
  cases planned
  obtain ⟨all, names⟩ := chainNames_ok named
  refine ⟨rfl, all, names, ?_, ?_⟩
  · obtain ⟨rfl, inner, size⟩ := Graph.order_ok ordered
    have distinct : (a.graph.exportRun a.coloring).Nodup := by
      have nodup := List.Nodup.of_map _ names
      exact (List.nodup_append.mp (List.nodup_cons.mp nodup).2).1
    have perm := (List.subperm_of_subset distinct inner).perm_of_length_le (Nat.le_of_eq size.symm)
    intro id
    rw [Graph.mem_nodeIds_iff wf, ← perm.mem_iff, List.cons_append, List.mem_cons, List.mem_append, List.mem_singleton]
  · obtain ⟨rfl, -, -⟩ := Graph.order_ok ordered
    rfl

section Emission

variable {p : Plan} {s : Settings} {files : FileTree} {mark : Nat} {id : String}

def emitted (p : Plan) (s : Settings) (files : FileTree) (mark : Nat) (n : Node) : Except EmitError Fragment :=
  n.type.emit n.view (p.analysis.graph.incoming n.id) (p.analysis.graph.outgoing n.id) (p.site s files mark n.id)

theorem emit_of_node {n : Node} (node : p.analysis.graph.node? id = some n) :
    p.emit s files mark id = ((p.emitted s files mark n).mapError (EmitError.toExportError id n.type.typeId)).bind fun f =>
      match f.problem? s with
      | some cause => .error ⟨some id, cause⟩
      | none => .ok ⟨id, f⟩ := by
  obtain ⟨-, rfl⟩ := Graph.node?_mem node
  simp only [emit, node]
  rfl

theorem emit_of_fragment {n : Node} {f : Fragment} (node : p.analysis.graph.node? id = some n)
    (made : p.emitted s files mark n = .ok f) (fine : f.problem? s = none) : p.emit s files mark id = .ok ⟨id, f⟩ := by
  rw [emit_of_node node, made, Except.mapError, Except.bind, fine]

theorem emit_made {e : Emission} (done : p.emit s files mark id = .ok e) : ∃ n, p.analysis.graph.node? id = some n ∧
    e.node = id ∧ p.emitted s files mark n = .ok e.fragment ∧ e.fragment.problem? s = none := by
  cases node : p.analysis.graph.node? id with
  | none =>
    simp only [emit, node] at done
    cases done
  | some n =>
    rw [emit_of_node node] at done
    obtain ⟨f, passed, done⟩ := bind_ok done
    split at done
    case h_1 => cases done
    case h_2 fine =>
      cases done
      exact ⟨n, rfl, rfl, mapError_ok.mp passed, fine⟩

end Emission

end Plan
end FilterGraph
