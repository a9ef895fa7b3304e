import FilterGraph.Proofs.Alike.Graph
import FilterGraph.Proofs.Entries

namespace FilterGraph

namespace Graph.Alike

variable {r : Registry} {g h : Graph} (alike : g.Alike h)

include alike

theorem declaredFlow_eq (ref : PortRef) : g.declaredFlow ref = h.declaredFlow ref := by
  rw [declaredFlow, declaredFlow, alike.port?_eq]

theorem firstFront_eq : g.firstFront = h.firstFront := by
  simp only [firstFront, alike.outputRefs_eq, alike.inputRefs_eq]

theorem portsBefore_perm (ref : PortRef) : (g.portsBefore ref).Perm (h.portsBefore ref) := by
  unfold portsBefore
  rw [alike.port?_eq, alike.inputRefs_eq]
  cases h.port? ref with
  | none => exact .refl _
  | some p =>
    simp only
    cases p.kind with
    | input => exact (alike.connections.filter _).map _
    | output => exact .refl _

variable (sound : g.Sound r)

include sound

theorem portsAfter_eq (ref : PortRef) : g.portsAfter ref = h.portsAfter ref := by
  simp only [portsAfter, alike.port?_eq, alike.outputRefs_eq, alike.target?_eq sound]

theorem spread_perm (color : Flow) (ref : PortRef) : (g.spread color ref).Perm (h.spread color ref) := by
  unfold spread
  split
  · rw [alike.portsAfter_eq sound]
  · exact alike.portsBefore_perm ref

end Graph.Alike

namespace Coloring

def Front.Colored (front : Front) : Prop := ∀ a ∈ front, a.2 ≠ .unset

theorem find?_color {front : Front} {color : Flow} (all : ∀ a ∈ front, a.2 = color) (ref : PortRef) :
    (front.find? fun a => a.1 == ref).map (·.2) = if (ref, color) ∈ front then some color else none := by
  cases found : front.find? fun a => a.1 == ref with
  | none =>
    have missing : (ref, color) ∉ front := by
      intro member
      exact List.find?_eq_none.mp found _ member (beq_self_eq_true ref)
    rw [if_neg missing]
    rfl
  | some a =>
    have member := List.mem_of_find?_eq_some found
    have matched := List.find?_some found
    have here : a = (ref, color) := Prod.ext (eq_of_beq matched) (all a member)
    rw [here] at member ⊢
    rw [if_pos member]
    rfl

theorem get?_ordered {front : Front} (colored : front.Colored) (ref : PortRef) :
    Entries.get? ref ((ordered front).foldl (fun (known : Front) (r, color) => Entries.set r color known) []) =
      if (ref, Flow.outgoing) ∈ front then some .outgoing
      else if (ref, Flow.incoming) ∈ front then some .incoming else none := by
  have incoming : ∀ a ∈ (front.filter (·.2 == .incoming)).reverse, a.2 = Flow.incoming := by
    intro a member
    exact eq_of_beq (List.mem_filter.mp (List.mem_reverse.mp member)).2
  have outgoing : ∀ a ∈ (front.filter (·.2 != .incoming)).reverse, a.2 = Flow.outgoing := by
    intro a member
    obtain ⟨present, other⟩ := List.mem_filter.mp (List.mem_reverse.mp member)
    have unset := colored a present
    cases same : a.2 <;> simp_all
  rw [Entries.get?_foldl_set, ordered, List.reverse_append, List.find?_append, Option.map_or, find?_color outgoing,
    find?_color incoming]
  have nothing : Entries.get? ref ([] : Front) = none := rfl
  simp only [nothing, List.mem_reverse, List.mem_filter, bne_iff_ne, ne_eq, beq_iff_eq, reduceCtorEq, not_false_eq_true,
    and_true, Option.or_none]
  split <;> rfl

section Arrivals

variable {front : Front} (colors : front.Colored)

include colors

theorem mem_arrivals {ref : PortRef} {color : Flow} :
    (ref, color) ∈ arrivals (ordered front) ↔
      (if (ref, Flow.outgoing) ∈ front then some Flow.outgoing
        else if (ref, Flow.incoming) ∈ front then some .incoming else none) = some color := by
  have distinct := Entries.keys_foldl_set (ordered front) [] List.nodup_nil
  rw [← get?_ordered colors, Entries.get?_eq_some distinct]
  exact (List.mergeSort_perm _ _).mem_iff

theorem arrivals_subset : arrivals (ordered front) ⊆ front := by
  intro ⟨ref, color⟩ member
  have found := (mem_arrivals colors).mp member
  split at found
  · cases found
    assumption
  · split at found <;> cases found
    assumption

theorem arrivals_cover {a : PortRef × Flow} (member : a ∈ front) : ∃ b ∈ arrivals (ordered front), b.1 = a.1 := by
  obtain ⟨ref, color⟩ := a
  by_cases outgoing : (ref, Flow.outgoing) ∈ front
  · exact ⟨_, (mem_arrivals colors).mpr (if_pos outgoing), rfl⟩
  · have incoming : color = .incoming := by
      have unset := colors _ member
      cases color with
      | unset => exact absurd rfl unset
      | incoming => rfl
      | outgoing => exact absurd member outgoing
    exact ⟨_, (mem_arrivals colors).mpr (by rw [if_neg outgoing, if_pos (incoming ▸ member), incoming]), rfl⟩

end Arrivals

theorem arrivals_eq {front other : Front} (colored : front.Colored) (perm : front.Perm other) :
    arrivals (ordered front) = arrivals (ordered other) := by
  have kept : other.Colored := fun a member => colored a (perm.symm.subset member)
  have distinct := fun front : Front => Entries.keys_foldl_set front [] List.nodup_nil
  refine mergeSort_eq_of_perm (fun a b => PortRef.le_iff a.1 b.1) ?_ ?_
  · refine Entries.perm_of_get? (distinct _) (distinct _) fun ref => ?_
    simp only [get?_ordered colored, get?_ordered kept, perm.mem_iff]
  · intro a left b right same
    exact List.inj_on_of_nodup_map (distinct _) left right (PortRef.key_inj same)

/-- Two states of the colouring: the ports that no colour has reached may be listed in any order. -/
structure Alike (s t : Coloring) : Prop where
  fresh : s.fresh.Perm t.fresh
  colors : s.colors = t.colors
  conflicts : s.conflicts = t.conflicts

theorem Front.Colored.arrivals {front : Front} (colored : front.Colored) : (arrivals (ordered front)).Colored :=
  fun a member => colored a (arrivals_subset colored member)

theorem Front.Colored.round (g : Graph) {front : Front} (colored : front.Colored) (s : Coloring) :
    Front.Colored (round g s front).2 := by
  induction front generalizing s with
  | nil => exact fun a member => absurd member List.not_mem_nil
  | cons first rest ih =>
    obtain ⟨unset, others⟩ := List.forall_mem_cons.mp colored
    have here : Front.Colored (arrive g s first.1 first.2).2 := by
      intro a member
      unfold arrive at member
      split at member
      · split at member
        · obtain ⟨next, -, rfl⟩ := List.mem_map.mp member
          exact unset
        · exact absurd member List.not_mem_nil
      · exact absurd member List.not_mem_nil
    intro a member
    rcases List.mem_append.mp member with first | later
    · exact here a first
    · exact ih others _ a later

section Rounds

variable {r : Registry} {g h : Graph} {s t : Coloring} (alike : g.Alike h) (sound : g.Sound r)

include alike sound

theorem Alike.arrive (same : s.Alike t) (ref : PortRef) (color : Flow) :
    (arrive g s ref color).1.Alike (arrive h t ref color).1 ∧ (arrive g s ref color).2.Perm (arrive h t ref color).2 := by
  obtain ⟨fresh, colors, conflicts⟩ := s
  obtain ⟨others, colors, conflicts⟩ := t
  obtain ⟨perm, rfl, rfl⟩ := same
  simp only [Coloring.arrive, perm.contains_eq, alike.declaredFlow_eq]
  split
  · split
    · exact ⟨⟨perm.erase ref, rfl, rfl⟩, (alike.spread_perm sound color ref).map _⟩
    · exact ⟨⟨perm.erase ref, rfl, rfl⟩, .refl _⟩
  · exact ⟨⟨perm, rfl, rfl⟩, .refl _⟩

theorem Alike.round (same : s.Alike t) (front : Front) :
    (round g s front).1.Alike (round h t front).1 ∧ (round g s front).2.Perm (round h t front).2 := by
  induction front generalizing s t with
  | nil => exact ⟨same, .refl _⟩
  | cons first rest ih =>
    obtain ⟨here, next⟩ := same.arrive alike sound first.1 first.2
    obtain ⟨rounded, later⟩ := ih here
    exact ⟨rounded, next.append later⟩

theorem Alike.flood {front other : Front} (same : s.Alike t) (colored : front.Colored) (perm : front.Perm other) :
    (flood g s front).Alike (flood h t other) := by
  -- Round by round. Only what arrives matters of a front, and the two runs see the same arrive.
  induction s, front using flood.induct g generalizing t other with
  | case1 s =>
    cases perm.nil_eq
    rw [Coloring.flood, Coloring.flood.eq_def h, dif_pos rfl, dif_pos rfl]
    exact same
  | case2 s front going next =>
    rename_i ih
    have remaining : other ≠ [] := fun none => going (none ▸ perm).eq_nil
    obtain ⟨here, later⟩ := same.round alike sound (arrivals (ordered front))
    rw [Coloring.flood, Coloring.flood.eq_def h, dif_neg going, dif_neg remaining, ← arrivals_eq colored perm]
    exact ih here (colored.arrivals.round g s) later

end Rounds

theorem firstFront_colored (g : Graph) : g.firstFront.Colored := by
  intro a member
  rcases List.mem_append.mp member with incoming | outgoing
  · obtain ⟨ref, -, rfl⟩ := List.mem_map.mp incoming
    exact Flow.noConfusion
  · obtain ⟨ref, -, rfl⟩ := List.mem_map.mp outgoing
    exact Flow.noConfusion

end Coloring

namespace Graph.Alike

variable {r : Registry} {g h : Graph} (alike : g.Alike h) (sound : g.Sound r) (other : h.Sound r)

include alike sound other

theorem coloring_alike : g.coloring.Alike h.coloring := by
  have start : Coloring.Alike { fresh := g.ports.eraseDups } { fresh := h.ports.eraseDups } :=
    ⟨eraseDups_perm (alike.ports_perm sound other), rfl, rfl⟩
  exact start.flood alike sound (Coloring.firstFront_colored g) (alike.firstFront_eq ▸ .refl _)

theorem flowOf_eq (id : String) : g.coloring.flowOf g id = h.coloring.flowOf h id := by
  have colors := (alike.coloring_alike sound other).colors
  have reads : ∀ n m : Node, n.id = m.id → n.type = m.type → g.coloring.nodeFlow n = g.coloring.nodeFlow m := by
    intro n m ids types
    simp only [Coloring.nodeFlow, Node.inputRefs, Node.outputRefs, Node.ref_congr ids, types]
    rfl
  have colorOf : h.coloring.colorOf = g.coloring.colorOf := by
    funext ref
    rw [Coloring.colorOf, Coloring.colorOf, colors]
  have flows : h.coloring.nodeFlow = g.coloring.nodeFlow := by
    funext n
    rw [Coloring.nodeFlow, Coloring.nodeFlow, colorOf]
  rw [Coloring.flowOf, Coloring.flowOf, alike.map_node? reads, flows]

end Graph.Alike
end FilterGraph
