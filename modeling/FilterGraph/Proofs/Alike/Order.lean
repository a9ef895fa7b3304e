import FilterGraph.Proofs.Alike.Coloring
import FilterGraph.Proofs.Alike.Normalization

namespace FilterGraph.Graph

namespace Alike

variable {r : Registry} {g h : Graph} (alike : g.Alike h)

include alike

theorem inDegree_eq {inner others : List String} (perm : inner.Perm others) (id : String) :
    g.inDegree inner id = h.inDegree others id := by
  unfold inDegree
  simp only [perm.contains_eq]
  exact (alike.connections.filter _).length_eq

theorem ready_perm {inner others : List String} (perm : inner.Perm others) (sent done : List String) :
    (g.ready inner sent done).Perm (h.ready others sent done) := by
  unfold ready
  simp only [alike.inDegree_eq perm]
  exact perm.filter _

variable (sound : g.Sound r)

include sound

theorem orderFrom_eq {inner others : List String} (perm : inner.Perm others) (rank : String → Nat) (left : Nat)
    (sent done : List String) :
    g.orderFrom (orderLe rank) inner left sent done = h.orderFrom (orderLe rank) others left sent done := by
  have differ : Function.Injective fun id => toLex (rank id, id) :=
    fun a b same => (Prod.mk.inj (toLex.injective same)).2
  induction left generalizing sent done with
  | zero => rfl
  | succ left ih =>
    rw [orderFrom, orderFrom, least?_eq_of_perm (orderLe_iff rank) differ (alike.ready_perm perm sent done)]
    cases least? (orderLe rank) (h.ready others sent done) with
    | none => rfl
    | some id =>
      simp only
      rw [ih, alike.successors_eq sound]

theorem rankIn_eq (other : h.Sound r) (id : String) : g.rankIn g.coloring id = h.rankIn h.coloring id := by
  have inner := alike.innerIds_perm
  rw [rankIn, rankIn, Entries.get?_table (fun id => flowRank (g.coloring.flowOf g id)),
    Entries.get?_table (fun id => flowRank (h.coloring.flowOf h id))]
  simp only [inner.mem_iff, alike.flowOf_eq sound other]

theorem order_eq (other : h.Sound r) : g.order g.coloring = h.order h.coloring := by
  have inner := alike.innerIds_perm
  have run : g.exportRun g.coloring = h.exportRun h.coloring := by
    rw [exportRun, exportRun, inner.length_eq, alike.orderFrom_eq sound inner, funext (alike.rankIn_eq sound other)]
  rw [order_eq_run, order_eq_run, run, inner.length_eq]

end Alike

end FilterGraph.Graph
