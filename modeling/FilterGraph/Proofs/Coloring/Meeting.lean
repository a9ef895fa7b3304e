import FilterGraph.Proofs.Coloring.Labelling
import Mathlib.Order.Nat

namespace FilterGraph

namespace Graph

inductive ColoredWay (g : Graph) (s : Coloring) (color : Flow) : Nat → PortRef → PortRef → Prop
  | here {a : PortRef} (has : s.colorOf a = color) : ColoredWay g s color 0 a a
  | step {n : Nat} {a b c : PortRef} (first : g.ColoredStep s color a b) (rest : ColoredWay g s color n b c) :
      ColoredWay g s color (n + 1) a c

/-- The lengths of the incoming ways from an output of the source. -/
def waysFromSource (g : Graph) (p : PortRef) : Set Nat :=
  {n | ∃ source start, g.node? sourceId = some source ∧ start ∈ source.outputRefs ∧
    g.ColoredWay g.coloring .incoming n start p}

/-- The lengths of the outgoing ways to an input of the local machine. -/
def waysToLocalhost (g : Graph) (q : PortRef) : Set Nat :=
  {n | ∃ localhost stop, g.node? localhostId = some localhost ∧ stop ∈ localhost.inputRefs ∧
    g.ColoredWay g.coloring .outgoing n q stop}

theorem node_of_waysFromSource {g : Graph} {p : PortRef} (here : 0 ∈ g.waysFromSource p) : p.node = sourceId := by
  obtain ⟨source, p, node, output, ⟨-⟩⟩ := here
  exact (outputRefs_node output).trans (node?_mem node).2

theorem node_of_waysToLocalhost {g : Graph} {q : PortRef} (here : 0 ∈ g.waysToLocalhost q) : q.node = localhostId := by
  obtain ⟨localhost, q, node, input, ⟨-⟩⟩ := here
  exact (inputRefs_node input).trans (node?_mem node).2

theorem Labelling.colored {g : Graph} {s : Coloring} (labelling : g.Labelling s) {ref : PortRef}
    (reached : s.Reached ref) (declared : g.declaredFlow ref = .unset) : s.colorOf ref ≠ .unset := by
  rcases reached with unset | conflict
  · exact unset
  · rcases labelling.refused _ conflict with ⟨other, -⟩ | ⟨other, -⟩ <;> cases declared.symm.trans other

theorem ColoredWay.tail {g : Graph} {s : Coloring} {color : Flow} {n : Nat} {a b c : PortRef}
    (way : g.ColoredWay s color n a b) (last : g.ColoredStep s color b c) : g.ColoredWay s color (n + 1) a c := by
  induction way with
  | here has => exact .step last (.here last.2.2)
  | step first _ ih => exact .step first (ih last)

theorem PortStep.kinds {r : Registry} {g : Graph} (sound : g.Sound r) (differ : g.PortsDiffer) {a b : PortRef}
    (step : g.PortStep a b) : ∃ p q, g.port? a = some p ∧ g.port? b = some q ∧ p.kind ≠ q.kind := by
  cases step with
  | wire member =>
    obtain ⟨p, q, output, input, -, left, right, -⟩ := sound.connections _ member
    exact ⟨p, q, output, input, by simp [left, right]⟩
  | through member input output =>
    obtain ⟨p, entry, rfl⟩ := List.mem_map.mp input
    obtain ⟨q, leaving, rfl⟩ := List.mem_map.mp output
    obtain ⟨here, left⟩ := List.mem_filter.mp entry
    obtain ⟨there, right⟩ := List.mem_filter.mp leaving
    refine ⟨p, q, sound.port?_of_listed differ member here, sound.port?_of_listed differ member there, ?_⟩
    simp [eq_of_beq left, eq_of_beq right]

end Graph

namespace Coloring

def after (g : Graph) (rounds : Nat) : Coloring × Front := (advance g)^[rounds] (start g)

/-- The colour comes to the port in so many steps from where it starts, through ports that have it. -/
inductive Arrives (g : Graph) (s : Coloring) (color : Flow) : Nat → PortRef → Prop
  | starts {ref : PortRef} (first : (ref, color) ∈ g.firstFront) : Arrives g s color 0 ref
  | passes {n : Nat} {near ref : PortRef} (way : Arrives g s color n near) (has : (near, color) ∈ s.colors)
      (spreads : ref ∈ g.spread color near) : Arrives g s color (n + 1) ref

variable {g : Graph} {s t : Coloring} {color : Flow} {ref : PortRef} {n : Nat}

theorem Arrives.grown (way : Arrives g s color n ref) (more : s.colors ⊆ t.colors) : Arrives g t color n ref := by
  induction way with
  | starts first => exact .starts first
  | passes _ has spreads ih => exact .passes ih (more has) spreads

theorem after_succ (g : Graph) (rounds : Nat) : after g (rounds + 1) = advance g (after g rounds) :=
  Function.iterate_succ_apply' ..

theorem after_spreading (g : Graph) (rounds : Nat) : Spreading g (after g rounds).1 (after g rounds).2 :=
  rounds_spreading g rounds

/-- Colours have come by ways of at most so many steps, and the front waits one step further. -/
structure Timed (g : Graph) (s : Coloring) (n : Nat) (front : Front) : Prop where
  given : ∀ a ∈ s.colors, ∃ k ≤ n, Arrives g s a.2 k a.1
  next : ∀ a ∈ front, Arrives g s a.2 (n + 1) a.1

section Round

theorem arrive_timed (past : ∀ a ∈ s.colors, ∃ k ≤ n, Arrives g s a.2 k a.1) (way : Arrives g s color n ref) :
    Timed g (arrive g s ref color).1 n (arrive g s ref color).2 := by
  have more := arrive_colors g s ref color
  have old : ∀ a ∈ s.colors, ∃ k ≤ n, Arrives g (arrive g s ref color).1 a.2 k a.1 := by
    intro a member
    obtain ⟨k, early, before⟩ := past a member
    exact ⟨k, early, before.grown more⟩
  rcases arrive_cases g s ref color with ⟨-, same⟩ | ⟨-, -, same⟩ | ⟨-, -, same⟩ <;> rw [same] at more old ⊢
  · exact ⟨old, fun a member => absurd member List.not_mem_nil⟩
  · have has : (ref, color) ∈ (s.gives ref color).colors := List.mem_append_right _ List.mem_cons_self
    constructor
    case given =>
      intro a member
      rcases List.mem_append.mp member with before | last
      · exact old a before
      · cases List.mem_singleton.mp last
        exact ⟨n, le_refl n, way.grown more⟩
    case next =>
      intro a member
      obtain ⟨next, spreads, rfl⟩ := List.mem_map.mp member
      exact .passes (way.grown more) has spreads
  · exact ⟨old, fun a member => absurd member List.not_mem_nil⟩

theorem round_timed {front : Front} (past : ∀ a ∈ s.colors, ∃ k ≤ n, Arrives g s a.2 k a.1)
    (here : ∀ a ∈ front, Arrives g s a.2 n a.1) : Timed g (round g s front).1 n (round g s front).2 := by
  induction front generalizing s with
  | nil => exact ⟨past, fun a member => absurd member List.not_mem_nil⟩
  | cons first rest ih =>
    obtain ⟨now, others⟩ := List.forall_mem_cons.mp here
    have arrived := arrive_timed past now
    have rounded := ih arrived.given fun a member => (others a member).grown (arrive_colors g s first.1 first.2)
    refine ⟨rounded.given, fun a member => ?_⟩
    rcases List.mem_append.mp member with next | next
    · exact (arrived.next a next).grown (round_colors g _ rest)
    · exact rounded.next a next

theorem after_arrives (g : Graph) (rounds : Nat) :
    (∀ a ∈ (after g rounds).1.colors, ∃ k < rounds, Arrives g (after g rounds).1 a.2 k a.1) ∧
      ∀ a ∈ (after g rounds).2, Arrives g (after g rounds).1 a.2 rounds a.1 := by
  induction rounds with
  | zero => exact ⟨fun a member => absurd member List.not_mem_nil, fun a member => .starts member⟩
  | succ rounds ih =>
    have inv := after_spreading g rounds
    have colors : Front.Colored (after g rounds).2 := fun a member => inv.due_colors (inv.due a member)
    have early : ∀ a ∈ (after g rounds).1.colors, ∃ k ≤ rounds, Arrives g (after g rounds).1 a.2 k a.1 := by
      intro a member
      obtain ⟨k, before, way⟩ := ih.1 a member
      exact ⟨k, before.le, way⟩
    have timed := round_timed early fun a member => ih.2 a (arrivals_subset colors member)
    rw [after_succ]
    refine ⟨fun a member => ?_, timed.next⟩
    obtain ⟨k, before, way⟩ := timed.given a member
    exact ⟨k, Nat.lt_succ_of_le before, way⟩

theorem arrive_fresh (g : Graph) (s : Coloring) (ref : PortRef) (color : Flow) :
    (arrive g s ref color).1.fresh.Sublist s.fresh := by
  rcases arrive_cases g s ref color with ⟨-, same⟩ | ⟨-, -, same⟩ | ⟨-, -, same⟩ <;> rw [same]
  · exact List.erase_sublist
  · exact List.erase_sublist

theorem round_fresh (g : Graph) (s : Coloring) (front : Front) : (round g s front).1.fresh.Sublist s.fresh := by
  induction front generalizing s with
  | nil => exact List.Sublist.refl _
  | cons first rest ih => exact (ih _).trans (arrive_fresh g s first.1 first.2)

theorem arrive_reaches (distinct : s.fresh.Nodup) (ref : PortRef) (color : Flow) :
    ref ∉ (arrive g s ref color).1.fresh := by
  rcases arrive_cases g s ref color with ⟨gone, same⟩ | ⟨-, -, same⟩ | ⟨-, -, same⟩ <;> rw [same]
  · exact gone
  · exact distinct.not_mem_erase
  · exact distinct.not_mem_erase

theorem round_reaches {front : Front} (distinct : s.fresh.Nodup) (arrives : ∃ a ∈ front, a.1 = ref) :
    ref ∉ (round g s front).1.fresh := by
  obtain ⟨a, member, rfl⟩ := arrives
  induction front generalizing s with
  | nil => exact absurd member List.not_mem_nil
  | cons first rest ih =>
    rcases List.mem_cons.mp member with rfl | later
    · exact fun left => arrive_reaches distinct a.1 a.2 ((round_fresh g _ rest).subset left)
    · exact ih ((arrive_fresh g s first.1 first.2).nodup distinct) later

theorem arrive_settled {other : PortRef} {given : Flow} (gone : ref ∉ s.fresh)
    (has : (ref, color) ∈ (arrive g s other given).1.colors) : (ref, color) ∈ s.colors := by
  rcases arrive_cases g s other given with ⟨-, same⟩ | ⟨found, -, same⟩ | ⟨-, -, same⟩ <;> rw [same] at has
  · exact has
  · rcases List.mem_append.mp has with old | new
    · exact old
    · cases List.mem_singleton.mp new
      exact absurd found gone
  · exact has

theorem round_settled {front : Front} (gone : ref ∉ s.fresh) (has : (ref, color) ∈ (round g s front).1.colors) :
    (ref, color) ∈ s.colors := by
  induction front generalizing s with
  | nil => exact has
  | cons first rest ih =>
    have still : ref ∉ (arrive g s first.1 first.2).1.fresh :=
      fun left => gone ((arrive_fresh g s first.1 first.2).subset left)
    exact arrive_settled gone (ih still has)

theorem flood_settled {front : Front} (gone : ref ∉ s.fresh) (has : (ref, color) ∈ (flood g s front).colors) :
    (ref, color) ∈ s.colors := by
  induction s, front using flood.induct g with
  | case1 s => rwa [flood, dif_pos rfl] at has
  | case2 s front going next ih =>
    rw [flood, dif_neg going] at has
    exact round_settled gone (ih (fun left => gone ((round_fresh g s _).subset left)) has)

end Round

section Rounds

theorem flood_advance (g : Graph) (s : Coloring) (front : Front) :
    flood g (advance g (s, front)).1 (advance g (s, front)).2 = flood g s front := by
  by_cases ended : front = []
  · subst ended
    have still : advance g (s, []) = (s, []) := by
      rw [advance, ordered, arrivals, List.filter_nil, List.filter_nil, List.append_nil, List.foldl_nil,
        List.mergeSort_nil, round]
    rw [still]
  · rw [flood.eq_def g s front, dif_neg ended]
    rfl

theorem flood_after (g : Graph) (rounds : Nat) : flood g (after g rounds).1 (after g rounds).2 = g.coloring := by
  induction rounds with
  | zero => rfl
  | succ rounds ih => rw [after_succ, ← ih, ← flood_advance g (after g rounds).1]

theorem after_colors (g : Graph) (rounds : Nat) : (after g rounds).1.colors ⊆ g.coloring.colors :=
  flood_after g rounds ▸ flood_colors g _ _

theorem colored_of_due {other : Flow} (due : Due g (after g n).1 ref color) (ends : (ref, other) ∈ g.coloring.colors) :
    (ref, other) ∈ (after g (n + 1)).1.colors := by
  have inv := after_spreading g n
  have gone : ref ∉ (after g (n + 1)).1.fresh := by
    rw [after_succ]
    by_cases fresh : ref ∈ (after g n).1.fresh
    · have colors : Front.Colored (after g n).2 := fun a member => inv.due_colors (inv.due a member)
      obtain ⟨a, waits, rfl⟩ := inv.covered ref color due fresh
      exact round_reaches (List.nodup_append.mp inv.distinct).1 (arrivals_cover colors waits)
    · exact fun left => fresh ((round_fresh g _ _).subset left)
  rw [← flood_after g (n + 1)] at ends
  exact flood_settled gone ends

theorem Arrives.colored (way : Arrives g g.coloring color n ref) (ends : (ref, color) ∈ g.coloring.colors) :
    (ref, color) ∈ (after g (n + 1)).1.colors := by
  induction way with
  | starts first => exact colored_of_due (n := 0) (.inl first) ends
  | passes _ has spreads ih => exact colored_of_due (.inr ⟨_, ih has, spreads⟩) ends

/-- The shortest way of a colour to a port of it takes as many steps as there are rounds before the port has it. -/
theorem exists_least (ends : (ref, color) ∈ g.coloring.colors) :
    ∃ n, IsLeast {k | Arrives g g.coloring color k ref} n ∧ ∀ k, (ref, color) ∈ (after g k).1.colors → n < k := by
  have early : ∀ k, (ref, color) ∈ (after g k).1.colors → ∃ j < k, Arrives g g.coloring color j ref := by
    intro k has
    obtain ⟨j, before, way⟩ := (after_arrives g k).1 _ has
    exact ⟨j, before, way.grown (after_colors g k)⟩
  obtain ⟨rounds, -, last⟩ := flood_rounds g (start g).1 (start g).2
  have final : (ref, color) ∈ (after g rounds).1.colors := by
    rw [after, show start g = ((start g).1, (start g).2) from rfl, last]
    exact ends
  obtain ⟨k, -, some⟩ := early rounds final
  classical
  have least : IsLeast {k | Arrives g g.coloring color k ref} (Nat.find ⟨k, some⟩) := Nat.isLeast_find ⟨k, some⟩
  refine ⟨_, least, fun k has => ?_⟩
  obtain ⟨j, before, way⟩ := early k has
  exact Nat.lt_of_le_of_lt (least.2 way) before

end Rounds

section Sound

variable {r : Registry} (sound : g.Sound r) (differ : g.PortsDiffer)

include sound differ

theorem spread_kinds {near : PortRef} (spreads : ref ∈ g.spread color near) :
    ∃ p q, g.port? near = some p ∧ g.port? ref = some q ∧ p.kind ≠ q.kind := by
  unfold Graph.spread at spreads
  split at spreads
  · exact ((sound.mem_portsAfter differ).mp spreads).kinds sound differ
  · obtain ⟨q, p, right, left, other⟩ := ((sound.mem_portsBefore differ).mp spreads).kinds sound differ
    exact ⟨p, q, left, right, other.symm⟩

theorem Arrives.kind (way : Arrives g s color n ref) :
    ∃ p, g.port? ref = some p ∧ (p.kind = .output ↔ (n % 2 = 0 ↔ color = .incoming)) := by
  induction way with
  | starts first =>
    rcases Graph.mem_firstFront.mp first with ⟨rfl, m, node, listed⟩ | ⟨rfl, m, node, listed⟩
    all_goals
      obtain ⟨p, member, rfl⟩ := List.mem_map.mp listed
      obtain ⟨declared, kind⟩ := List.mem_filter.mp member
      exact ⟨p, sound.port?_of_listed differ (Graph.node?_mem node).1 declared, by simp [eq_of_beq kind]⟩
  | @passes n near ref _ _ spreads ih =>
    obtain ⟨p, q, left, right, other⟩ := spread_kinds sound differ spreads
    obtain ⟨p', same, kind⟩ := ih
    cases left.symm.trans same
    have turned : q.kind = .output ↔ ¬ p.kind = .output := by
      revert other
      cases p.kind <;> cases q.kind <;> decide
    have parity : (n + 1) % 2 = 0 ↔ ¬ n % 2 = 0 := by omega
    refine ⟨q, right, ?_⟩
    rw [turned, kind, parity]
    exact not_iff

end Sound

end Coloring

namespace Graph

open Coloring

section Ways

variable {r : Registry} {g : Graph} (sound : g.Sound r) (differ : g.PortsDiffer)

include sound differ

theorem ColoredWay.arrives {n m : Nat} {a b : PortRef} (way : g.ColoredWay g.coloring .incoming n a b)
    (before : Arrives g g.coloring .incoming m a) : Arrives g g.coloring .incoming (m + n) b := by
  induction way generalizing m with
  | here _ => exact before
  | @step n _ _ _ first _ ih =>
    have has := (coloring_spreading g).mem_colors.mpr ⟨Flow.noConfusion, first.2.1⟩
    have passed := ih (before.passes has ((sound.mem_portsAfter differ).mpr first.1))
    rwa [Nat.add_assoc, Nat.add_comm 1 n] at passed

theorem mem_waysFromSource {p : PortRef} {n : Nat} (color : g.coloring.colorOf p = .incoming) :
    n ∈ g.waysFromSource p ↔ Arrives g g.coloring .incoming n p := by
  constructor
  · rintro ⟨source, start, node, output, way⟩
    have first : Arrives g g.coloring .incoming 0 start := .starts (mem_firstFront.mpr (.inl ⟨rfl, source, node, output⟩))
    simpa only [Nat.zero_add] using way.arrives sound differ first
  · intro way
    induction way with
    | starts first =>
      rcases mem_firstFront.mp first with ⟨-, source, node, output⟩ | ⟨other, -⟩
      · exact ⟨source, _, node, output, .here color⟩
      · cases other
    | passes _ has spreads ih =>
      have near := ((coloring_spreading g).mem_colors.mp has).2
      obtain ⟨source, start, node, output, way⟩ := ih near
      exact ⟨source, start, node, output, way.tail ⟨(sound.mem_portsAfter differ).mp spreads, near, color⟩⟩

theorem mem_waysToLocalhost {q : PortRef} {n : Nat} (color : g.coloring.colorOf q = .outgoing) :
    n ∈ g.waysToLocalhost q ↔ Arrives g g.coloring .outgoing n q := by
  constructor
  · rintro ⟨localhost, stop, node, input, way⟩
    induction way with
    | here _ => exact .starts (mem_firstFront.mpr (.inr ⟨rfl, localhost, node, input⟩))
    | step first rest ih =>
      have has := (coloring_spreading g).mem_colors.mpr ⟨Flow.noConfusion, first.2.2⟩
      exact (ih first.2.2 input).passes has ((sound.mem_portsBefore differ).mpr first.1)
  · intro way
    induction way with
    | starts first =>
      rcases mem_firstFront.mp first with ⟨other, -⟩ | ⟨-, localhost, node, input⟩
      · cases other
      · exact ⟨localhost, _, node, input, .here color⟩
    | passes _ has spreads ih =>
      have near := ((coloring_spreading g).mem_colors.mp has).2
      obtain ⟨localhost, stop, node, input, way⟩ := ih near
      exact ⟨localhost, stop, node, input, .step ⟨(sound.mem_portsBefore differ).mp spreads, color, near⟩ way⟩

end Ways

/-- No round has a port in both of its fronts, so every port of a front arrives with its colour; and where an incoming
    port is followed by an outgoing one, the first is as far from the source as the second is from the local machine. -/
theorem fronts_meet {r : Registry} {g : Graph} (authored : Authored r g) (differ : g.PortsDiffer) :
    (∃ rounds, Coloring.after g rounds = (g.coloring, [])) ∧
      (∀ rounds ref, ¬ ((ref, .incoming) ∈ (Coloring.after g rounds).2 ∧ (ref, .outgoing) ∈ (Coloring.after g rounds).2)) ∧
      (∀ rounds, ∀ a ∈ (Coloring.after g rounds).2, a ∈ arrivals (ordered (Coloring.after g rounds).2)) ∧
      ∀ p q, g.PortStep p q → g.coloring.colorOf p = .incoming → g.coloring.colorOf q = .outgoing →
        ∃ n, IsLeast (g.waysFromSource p) n ∧ IsLeast (g.waysToLocalhost q) n := by
  obtain ⟨-, wf⟩ := authored.well_formed
  have sound := wf.toSound
  have apart : ∀ rounds ref,
      ¬ ((ref, .incoming) ∈ (Coloring.after g rounds).2 ∧ (ref, .outgoing) ∈ (Coloring.after g rounds).2) := by
    rintro rounds ref ⟨incoming, outgoing⟩
    obtain ⟨p, port, left⟩ := ((after_arrives g rounds).2 _ incoming).kind sound differ
    obtain ⟨q, same, right⟩ := ((after_arrives g rounds).2 _ outgoing).kind sound differ
    cases port.symm.trans same
    have both : rounds % 2 = 0 ↔ ¬ rounds % 2 = 0 := by simpa using left.symm.trans right
    exact iff_not_self both
  refine ⟨?ends, apart, ?arrives, ?meets⟩
  case ends =>
    obtain ⟨rounds, -, ended⟩ := flood_rounds g (start g).1 (start g).2
    exact ⟨rounds, ended⟩
  case arrives =>
    rintro rounds ⟨ref, color⟩ member
    have inv := after_spreading g rounds
    have colors : Front.Colored (Coloring.after g rounds).2 := fun a waits => inv.due_colors (inv.due a waits)
    refine (mem_arrivals colors).mpr ?_
    cases color with
    | unset => exact absurd rfl (colors _ member)
    | incoming => rw [if_neg fun outgoing => apart rounds ref ⟨member, outgoing⟩, if_pos member]
    | outgoing => rw [if_pos member]
  case meets =>
    intro p q step left right
    have spread := coloring_spreading g
    have incoming : (p, .incoming) ∈ g.coloring.colors := spread.mem_colors.mpr ⟨Flow.noConfusion, left⟩
    have outgoing : (q, .outgoing) ∈ g.coloring.colors := spread.mem_colors.mpr ⟨Flow.noConfusion, right⟩
    obtain ⟨n, leastIn, roundIn⟩ := exists_least incoming
    obtain ⟨m, leastOut, roundOut⟩ := exists_least outgoing
    -- Each port has its colour at most one round after the other, and the rounds are of one parity.
    have late : m < n + 1 + 1 :=
      roundOut _ (colored_of_due (.inr ⟨p, leastIn.1.colored incoming, (sound.mem_portsAfter differ).mpr step⟩) outgoing)
    have early : n < m + 1 + 1 :=
      roundIn _ (colored_of_due (.inr ⟨q, leastOut.1.colored outgoing, (sound.mem_portsBefore differ).mpr step⟩) incoming)
    have parity : n % 2 = 0 ↔ m % 2 = 0 := by
      obtain ⟨a, b, first, second, other⟩ := step.kinds sound differ
      obtain ⟨a', same, kind⟩ := leastIn.1.kind sound differ
      cases first.symm.trans same
      obtain ⟨b', same, kind'⟩ := leastOut.1.kind sound differ
      cases second.symm.trans same
      revert other
      cases here : a.kind <;> cases there : b.kind <;> simp_all
    have met : m = n := by omega
    have from' : g.waysFromSource p = {k | Arrives g g.coloring .incoming k p} :=
      Set.ext fun k => mem_waysFromSource sound differ left
    have to' : g.waysToLocalhost q = {k | Arrives g g.coloring .outgoing k q} :=
      Set.ext fun k => mem_waysToLocalhost sound differ right
    exact ⟨n, from' ▸ leastIn, to' ▸ met ▸ leastOut⟩

def passage : Graph :=
  Graph.new.edits .builtin
    [.add "core:source_nat" (some "nat") [] (.list [.int 0, .int 0]),
      .connect ⟨⟨sourceId, "out"⟩, ⟨"nat", "in"⟩⟩, .connect ⟨⟨"nat", "out"⟩, ⟨localhostId, "in"⟩⟩]

theorem passage_meets :
    passage.coloring.colorOf ⟨"nat", "in"⟩ = .incoming ∧ passage.coloring.colorOf ⟨"nat", "out"⟩ = .outgoing ∧
      ∃ n, 0 < n ∧ IsLeast (passage.waysFromSource ⟨"nat", "in"⟩) n ∧ IsLeast (passage.waysToLocalhost ⟨"nat", "out"⟩) n := by
  have authored : Authored .builtin passage := .edits (.new .builtin) _
  obtain ⟨built, wf⟩ := authored.well_formed
  have differ : passage.PortsDiffer := wf.portsDiffer Registry.builtin_portsDiffer
  have labelling := wf.coloring_labelling built differ
  obtain ⟨-, -, -, meets⟩ := fronts_meet authored differ
  have start : passage.coloring.colorOf ⟨sourceId, "out"⟩ = .incoming := labelling.source _ (by rfl) _ (by decide +kernel)
  have stop : passage.coloring.colorOf ⟨localhostId, "in"⟩ = .outgoing :=
    labelling.localhost _ (by rfl) _ (by decide +kernel)
  have entry : passage.PortStep ⟨sourceId, "out"⟩ ⟨"nat", "in"⟩ :=
    .wire (c := ⟨⟨sourceId, "out"⟩, ⟨"nat", "in"⟩⟩) (by decide +kernel)
  have exit : passage.PortStep ⟨"nat", "out"⟩ ⟨localhostId, "in"⟩ :=
    .wire (c := ⟨⟨"nat", "out"⟩, ⟨localhostId, "in"⟩⟩) (by decide +kernel)
  have through : passage.PortStep ⟨"nat", "in"⟩ ⟨"nat", "out"⟩ := by
    have member : ∃ n ∈ passage.nodes, ⟨"nat", "in"⟩ ∈ n.inputRefs ∧ ⟨"nat", "out"⟩ ∈ n.outputRefs := by decide +kernel
    obtain ⟨n, listed, input, output⟩ := member
    exact .through listed input output
  have incoming : passage.coloring.colorOf ⟨"nat", "in"⟩ = .incoming := by
    cases color : passage.coloring.colorOf ⟨"nat", "in"⟩ with
    | incoming => rfl
    | unset => exact absurd color (labelling.colored (labelling.downstream _ _ entry start) (by decide +kernel))
    | outgoing =>
      obtain ⟨n, from', to'⟩ := meets _ _ entry start color
      have zero : n = 0 := Nat.le_zero.mp (from'.2 ⟨_, _, rfl, by decide +kernel, .here start⟩)
      exact absurd (node_of_waysToLocalhost (zero ▸ to'.1)) (by decide)
  have outgoing : passage.coloring.colorOf ⟨"nat", "out"⟩ = .outgoing := by
    cases color : passage.coloring.colorOf ⟨"nat", "out"⟩ with
    | outgoing => rfl
    | unset => exact absurd color (labelling.colored (labelling.upstream _ _ exit stop) (by decide +kernel))
    | incoming =>
      obtain ⟨n, from', to'⟩ := meets _ _ exit color stop
      have zero : n = 0 := Nat.le_zero.mp (to'.2 ⟨_, _, rfl, by decide +kernel, .here stop⟩)
      exact absurd (node_of_waysFromSource (zero ▸ from'.1)) (by decide)
  obtain ⟨n, from', to'⟩ := meets _ _ through incoming outgoing
  refine ⟨incoming, outgoing, n, Nat.pos_of_ne_zero ?_, from', to'⟩
  intro zero
  exact absurd (node_of_waysFromSource (zero ▸ from'.1)) (by decide)

end Graph

end FilterGraph
