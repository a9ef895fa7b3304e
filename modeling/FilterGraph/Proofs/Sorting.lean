import FilterGraph.Proofs.Export.Order
import Mathlib.Data.List.Nodup
import Mathlib.Data.Prod.Lex
import Mathlib.Data.String.Basic

namespace FilterGraph

section Sorting

variable {α β : Type} [LinearOrder β] {le : α → α → Bool} {key : α → β} (compares : ∀ a b, le a b = true ↔ key a ≤ key b)

include compares

theorem pairwise_mergeSort (xs : List α) : (xs.mergeSort le).Pairwise fun a b => key a ≤ key b := by
  have sorted : (xs.mergeSort le).Pairwise fun a b => le a b = true := by
    refine List.pairwise_mergeSort (fun a b c => ?_) (fun a b => ?_) xs
    · rw [compares, compares, compares]
      exact le_trans
    · rw [Bool.or_eq_true, compares, compares]
      exact le_total _ _
  exact sorted.imp fun {a b} => (compares a b).mp

theorem mergeSort_eq_of_perm {xs ys : List α} (perm : xs.Perm ys)
    (differ : ∀ a ∈ xs, ∀ b ∈ xs, key a = key b → a = b) : xs.mergeSort le = ys.mergeSort le := by
  have left := List.mergeSort_perm xs le
  have right := List.mergeSort_perm ys le
  refine List.Perm.eq_of_pairwise ?_ (pairwise_mergeSort compares xs) (pairwise_mergeSort compares ys)
    (left.trans (perm.trans right.symm))
  intro a b inLeft inRight first second
  exact differ a (left.subset inLeft) b (perm.symm.subset (right.subset inRight)) (le_antisymm first second)

end Sorting

theorem eraseDups_nodup {α : Type} [DecidableEq α] (xs : List α) : xs.eraseDups.Nodup := by
  induction size : xs.length using Nat.strong_induction_on generalizing xs with
  | _ size ih =>
    cases xs with
    | nil => exact List.nodup_nil
    | cons x rest =>
      rw [List.eraseDups_cons, List.nodup_cons, List.mem_eraseDups]
      refine ⟨by simp, ih _ ?_ _ rfl⟩
      have shorter := List.length_filter_le (fun y => !y == x) rest
      rw [List.length_cons] at size
      omega

theorem eraseDups_perm {α : Type} [DecidableEq α] {xs ys : List α} (perm : xs.Perm ys) :
    xs.eraseDups.Perm ys.eraseDups := by
  refine (List.perm_ext_iff_of_nodup (eraseDups_nodup xs) (eraseDups_nodup ys)).mpr fun a => ?_
  rw [List.mem_eraseDups, List.mem_eraseDups, perm.mem_iff]

theorem sort_strict {names : List String} (distinct : names.Nodup) : names.mergeSort.Pairwise (· < ·) := by
  have sorted : names.mergeSort.Pairwise (· ≤ ·) :=
    @pairwise_mergeSort _ _ _ (fun a b : String => decide (a ≤ b)) id (fun _ _ => decide_eq_true_iff) _
  have apart : names.mergeSort.Nodup := (List.mergeSort_perm _ _).nodup_iff.mpr distinct
  exact sorted.imp₂ (fun _ _ below apart => lt_of_le_of_ne below apart) apart

def PortRef.key (ref : PortRef) : String ×ₗ String := toLex (ref.node, ref.port)

theorem PortRef.le_iff (a b : PortRef) : a.le b = true ↔ a.key ≤ b.key := by
  simp only [le, key, Prod.Lex.toLex_le_toLex, Bool.or_eq_true, Bool.and_eq_true, decide_eq_true_eq, beq_iff_eq]

theorem PortRef.key_inj {a b : PortRef} (same : a.key = b.key) : a = b := by
  have parts := Prod.mk.inj (toLex.injective same)
  cases a
  cases b
  cases parts.1
  cases parts.2
  rfl

namespace Graph

theorem incomingLe_iff (inputs : List Port) (a b : Connection) : incomingLe inputs a b = true ↔
    toLex (inputRank inputs a.input.port, a.output.key) ≤ toLex (inputRank inputs b.input.port, b.output.key) := by
  simp only [incomingLe, Prod.Lex.toLex_le_toLex, Bool.or_eq_true, Bool.and_eq_true, decide_eq_true_eq, beq_iff_eq,
    PortRef.le_iff]

theorem orderLe_iff (rank : String → Nat) (a b : String) :
    orderLe rank a b = true ↔ toLex (rank a, a) ≤ toLex (rank b, b) := by
  simp only [orderLe, Prod.Lex.toLex_le_toLex, Bool.or_eq_true, Bool.and_eq_true, decide_eq_true_eq, beq_iff_eq]

section Least

variable {β : Type} [LinearOrder β] {le : String → String → Bool} {key : String → β}
  (compares : ∀ a b, le a b = true ↔ key a ≤ key b)

include compares

theorem least?_le {ids : List String} {best : String} (found : least? le ids = some best) :
    ∀ id ∈ ids, key best ≤ key id := by
  induction ids generalizing best with
  | nil => exact fun _ member => absurd member List.not_mem_nil
  | cons first rest ih =>
    rw [least?] at found
    cases later : least? le rest with
    | none =>
      rw [later] at found
      cases found
      cases least?_eq_none later
      exact fun id member => List.mem_singleton.mp member ▸ le_refl _
    | some other =>
      simp only [later, compares] at found
      have least := ih later
      split at found
      · rename_i early
        cases found
        exact List.forall_mem_cons.mpr ⟨le_refl _, fun id member => early.trans (least id member)⟩
      · rename_i late
        cases found
        exact List.forall_mem_cons.mpr ⟨(not_le.mp late).le, least⟩

theorem least?_eq_of_perm (differ : Function.Injective key) {xs ys : List String} (perm : xs.Perm ys) :
    least? le xs = least? le ys := by
  cases left : least? le xs with
  | none =>
    cases least?_eq_none left
    cases perm.nil_eq
    exact left.symm
  | some a =>
    cases right : least? le ys with
    | none =>
      cases least?_eq_none right
      cases perm.eq_nil
      cases left
    | some b =>
      have below := least?_le compares left b (perm.symm.subset (least?_mem right))
      have above := least?_le compares right a (perm.subset (least?_mem left))
      rw [differ (le_antisymm below above)]

end Least

end Graph
end FilterGraph
