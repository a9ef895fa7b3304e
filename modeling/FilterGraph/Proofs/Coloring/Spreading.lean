import FilterGraph.Proofs.Alike.Coloring
import FilterGraph.Proofs.Coloring.PortStep
import Mathlib.Logic.Function.Iterate

namespace FilterGraph

namespace Graph

theorem mem_firstFront {g : Graph} {ref : PortRef} {color : Flow} :
    (ref, color) ∈ g.firstFront ↔
      (color = .incoming ∧ ∃ n, g.node? sourceId = some n ∧ ref ∈ n.outputRefs) ∨
        (color = .outgoing ∧ ∃ n, g.node? localhostId = some n ∧ ref ∈ n.inputRefs) := by
  have listed : ∀ (id : String) (refs : Node → List PortRef),
      ref ∈ ((g.node? id).map refs).getD [] ↔ ∃ n, g.node? id = some n ∧ ref ∈ refs n := by
    intro id refs
    cases g.node? id <;> simp
  simp only [firstFront, List.mem_append, List.mem_map, Prod.mk.injEq, ← listed]
  constructor
  · rintro (⟨_, member, rfl, rfl⟩ | ⟨_, member, rfl, rfl⟩)
    · exact .inl ⟨rfl, member⟩
    · exact .inr ⟨rfl, member⟩
  · rintro (⟨rfl, member⟩ | ⟨rfl, member⟩)
    · exact .inl ⟨_, member, rfl, rfl⟩
    · exact .inr ⟨_, member, rfl, rfl⟩

end Graph

namespace Coloring

def colored (s : Coloring) : List PortRef := s.colors.map (·.1)

def conflicted (s : Coloring) : List PortRef := s.conflicts.map (·.1)

/-- The colour is due at the port: it starts there, or a port that has it passes it on. -/
def Due (g : Graph) (s : Coloring) (ref : PortRef) (color : Flow) : Prop :=
  (ref, color) ∈ g.firstFront ∨ ∃ near, (near, color) ∈ s.colors ∧ ref ∈ g.spread color near

def Passes (g : Graph) (s : Coloring) (color : Flow) (a b : PortRef) : Prop :=
  (a, color) ∈ s.colors ∧ (b, color) ∈ s.colors ∧ b ∈ g.spread color a

/-- What holds between two arrivals, with the ports that wait for one. -/
structure Spreading (g : Graph) (s : Coloring) (pending : Front) : Prop where
  parts : (s.fresh ++ (s.colored ++ s.conflicted)).Perm g.ports.eraseDups
  due : ∀ a ∈ pending, Due g s a.1 a.2
  covered : ∀ ref color, Due g s ref color → ref ∈ s.fresh → ∃ a ∈ pending, a.1 = ref
  declared : ∀ a ∈ s.colors, (g.declaredFlow a.1).compatible a.2 = true
  rooted : ∀ a ∈ s.colors, ∃ start, (start, a.2) ∈ g.firstFront ∧ Relation.ReflTransGen (Passes g s a.2) start a.1
  refused : ∀ a ∈ s.conflicts, (g.declaredFlow a.1).compatible a.2 = false ∧ Due g s a.1 a.2

section Growing

variable {g : Graph} {s t : Coloring} (more : s.colors ⊆ t.colors)

include more

theorem Due.grown {ref : PortRef} {color : Flow} (due : Due g s ref color) : Due g t ref color := by
  rcases due with starts | ⟨near, has, next⟩
  · exact .inl starts
  · exact .inr ⟨near, more has, next⟩

theorem passes_grown {color : Flow} {a b : PortRef} (way : Relation.ReflTransGen (Passes g s color) a b) :
    Relation.ReflTransGen (Passes g t color) a b :=
  way.lift id fun _ _ ⟨has, next, spreads⟩ => ⟨more has, more next, spreads⟩

end Growing

def gives (s : Coloring) (ref : PortRef) (color : Flow) : Coloring :=
  { s with fresh := s.fresh.erase ref, colors := s.colors ++ [(ref, color)] }

def refuses (s : Coloring) (ref : PortRef) (color : Flow) : Coloring :=
  { s with fresh := s.fresh.erase ref, conflicts := s.conflicts ++ [(ref, color)] }

theorem arrive_cases (g : Graph) (s : Coloring) (ref : PortRef) (color : Flow) :
    (ref ∉ s.fresh ∧ arrive g s ref color = (s, [])) ∨
      (ref ∈ s.fresh ∧ (g.declaredFlow ref).compatible color = true ∧
        arrive g s ref color = (s.gives ref color, (g.spread color ref).map fun next => (next, color))) ∨
      ref ∈ s.fresh ∧ (g.declaredFlow ref).compatible color = false ∧
        arrive g s ref color = (s.refuses ref color, []) := by
  by_cases found : ref ∈ s.fresh
  · cases fits : (g.declaredFlow ref).compatible color with
    | true => exact .inr (.inl ⟨found, rfl, by simp [arrive, found, fits, gives]⟩)
    | false => exact .inr (.inr ⟨found, rfl, by simp [arrive, found, fits, refuses]⟩)
  · exact .inl ⟨found, by simp [arrive, found]⟩

theorem due_gives {g : Graph} {s : Coloring} {here : PortRef} {given : Flow} {ref : PortRef} {color : Flow}
    (due : Due g (s.gives here given) ref color) : Due g s ref color ∨ (color = given ∧ ref ∈ g.spread color here) := by
  rcases due with starts | ⟨near, has, next⟩
  · exact .inl (.inl starts)
  · rcases List.mem_append.mp has with old | new
    · exact .inl (.inr ⟨near, old, next⟩)
    · cases List.mem_singleton.mp new
      exact .inr ⟨rfl, next⟩

section Run

variable {g : Graph} {s : Coloring} {pending : Front}

theorem Spreading.distinct (inv : Spreading g s pending) : (s.fresh ++ (s.colored ++ s.conflicted)).Nodup :=
  inv.parts.nodup_iff.mpr (eraseDups_nodup _)

theorem placed {fresh reached after : List PortRef} {ref : PortRef} (found : ref ∈ fresh)
    (place : after.Perm (ref :: reached)) : (fresh.erase ref ++ after).Perm (fresh ++ reached) :=
  calc (fresh.erase ref ++ after).Perm (fresh.erase ref ++ ref :: reached) := place.append_left _
    List.Perm _ (ref :: fresh.erase ref ++ reached) := List.perm_middle
    List.Perm _ (fresh ++ reached) := (List.perm_cons_erase found).symm.append_right _

section Arrival

variable {ref : PortRef} {color : Flow} (inv : Spreading g s ((ref, color) :: pending))

include inv

theorem Spreading.remains {other : PortRef} {due : Flow} (known : Due g s other due)
    (fresh : other ∈ s.fresh) (apart : other ≠ ref) : ∃ a ∈ pending, a.1 = other := by
  obtain ⟨a, listed, same⟩ := inv.covered other due known fresh
  rcases List.mem_cons.mp listed with rfl | later
  · exact absurd same.symm apart
  · exact ⟨a, later, same⟩

theorem Spreading.mem_erase {other : PortRef} (member : other ∈ s.fresh.erase ref) : other ≠ ref ∧ other ∈ s.fresh :=
  (List.nodup_append.mp inv.distinct).1.mem_erase_iff.mp member

theorem Spreading.passed (found : ref ∉ s.fresh) : Spreading g s pending := by
  refine { inv with due := (List.forall_mem_cons.mp inv.due).2, covered := ?_ }
  intro other due known fresh
  exact inv.remains known fresh fun same => found (same ▸ fresh)

theorem Spreading.refuses (found : ref ∈ s.fresh) (clash : (g.declaredFlow ref).compatible color = false) :
    Spreading g (s.refuses ref color) pending := by
  obtain ⟨here, waiting⟩ := List.forall_mem_cons.mp inv.due
  constructor
  case parts =>
    refine (placed found ?_).trans inv.parts
    simp only [Coloring.refuses, colored, conflicted, List.map_append, List.map_cons, List.map_nil,
      ← List.append_assoc]
    exact List.perm_append_singleton ref _
  case due => exact waiting
  case covered =>
    intro other due known member
    obtain ⟨apart, fresh⟩ := inv.mem_erase member
    exact inv.remains known fresh apart
  case declared => exact inv.declared
  case rooted => exact inv.rooted
  case refused =>
    intro a member
    rcases List.mem_append.mp member with old | last
    · exact inv.refused a old
    · cases List.mem_singleton.mp last
      exact ⟨clash, here⟩

theorem Spreading.gives (found : ref ∈ s.fresh) (fits : (g.declaredFlow ref).compatible color = true) :
    Spreading g (s.gives ref color) (pending ++ (g.spread color ref).map fun next => (next, color)) := by
  obtain ⟨here, waiting⟩ := List.forall_mem_cons.mp inv.due
  have more : s.colors ⊆ (s.gives ref color).colors := List.subset_append_left _ _
  have new : (ref, color) ∈ (s.gives ref color).colors := List.mem_append_right _ List.mem_cons_self
  constructor
  case parts =>
    refine (placed found ?_).trans inv.parts
    simp only [Coloring.gives, colored, conflicted, List.map_append, List.map_cons, List.map_nil, List.append_assoc,
      List.singleton_append]
    exact List.perm_middle
  case due =>
    intro a member
    rcases List.mem_append.mp member with old | next
    · exact (waiting a old).grown more
    · obtain ⟨b, spreads, rfl⟩ := List.mem_map.mp next
      exact .inr ⟨ref, new, spreads⟩
  case covered =>
    -- What is newly due is due at the ports that were put in the front.
    intro other due known member
    obtain ⟨apart, fresh⟩ := inv.mem_erase member
    rcases due_gives known with before | ⟨rfl, spreads⟩
    · obtain ⟨a, later, same⟩ := inv.remains before fresh apart
      exact ⟨a, List.mem_append_left _ later, same⟩
    · exact ⟨_, List.mem_append_right _ (List.mem_map_of_mem spreads), rfl⟩
  case declared =>
    intro a member
    rcases List.mem_append.mp member with old | last
    · exact inv.declared a old
    · cases List.mem_singleton.mp last
      exact fits
  case rooted =>
    -- The new port ends the way of the port that passed it the colour.
    intro a member
    rcases List.mem_append.mp member with old | last
    · obtain ⟨start, starts, way⟩ := inv.rooted a old
      exact ⟨start, starts, passes_grown more way⟩
    · cases List.mem_singleton.mp last
      rcases here with starts | ⟨near, has, spreads⟩
      · exact ⟨ref, starts, .refl⟩
      · obtain ⟨start, starts, way⟩ := inv.rooted _ has
        exact ⟨start, starts, (passes_grown more way).tail ⟨more has, new, spreads⟩⟩
  case refused =>
    intro a member
    obtain ⟨clash, due⟩ := inv.refused a member
    exact ⟨clash, due.grown more⟩

theorem Spreading.arrive : Spreading g (arrive g s ref color).1 (pending ++ (arrive g s ref color).2) := by
  rcases arrive_cases g s ref color with ⟨found, same⟩ | ⟨found, fits, same⟩ | ⟨found, clash, same⟩
  · rw [same, List.append_nil]
    exact inv.passed found
  · rw [same]
    exact inv.gives found fits
  · rw [same, List.append_nil]
    exact inv.refuses found clash

end Arrival

theorem Spreading.round {front : Front} (inv : Spreading g s (front ++ pending)) :
    Spreading g (round g s front).1 (pending ++ (round g s front).2) := by
  induction front generalizing s pending with
  | nil => simpa only [Coloring.round, List.nil_append, List.append_nil] using inv
  | cons first rest ih =>
    have arrived : Spreading g (Coloring.arrive g s first.1 first.2).1
        (rest ++ (pending ++ (Coloring.arrive g s first.1 first.2).2)) := by
      rw [← List.append_assoc]
      exact Spreading.arrive inv
    have rounded := ih arrived
    rwa [List.append_assoc] at rounded

theorem Spreading.requeued (inv : Spreading g s pending) {front : Front} (fewer : front ⊆ pending)
    (cover : ∀ a ∈ pending, ∃ b ∈ front, b.1 = a.1) : Spreading g s front := by
  refine { inv with due := fun a member => inv.due a (fewer member), covered := ?_ }
  intro ref color due fresh
  obtain ⟨a, listed, same⟩ := inv.covered ref color due fresh
  obtain ⟨b, member, equal⟩ := cover a listed
  exact ⟨b, member, equal.trans same⟩

theorem Spreading.due_colors (inv : Spreading g s pending) {ref : PortRef} {color : Flow} (due : Due g s ref color) :
    color ≠ .unset := by
  rcases due with starts | ⟨near, has, -⟩
  · exact firstFront_colored g _ starts
  · obtain ⟨start, starts, -⟩ := inv.rooted _ has
    exact firstFront_colored g _ starts

def start (g : Graph) : Coloring × Front := ({ fresh := g.ports.eraseDups }, g.firstFront)

def advance (g : Graph) (state : Coloring × Front) : Coloring × Front :=
  round g state.1 (arrivals (ordered state.2))

theorem Spreading.advance (inv : Spreading g s pending) :
    Spreading g (advance g (s, pending)).1 (advance g (s, pending)).2 := by
  have colors : pending.Colored := fun a member => inv.due_colors (inv.due a member)
  have queued : Spreading g s (arrivals (ordered pending) ++ []) := by
    rw [List.append_nil]
    exact inv.requeued (arrivals_subset colors) fun a member => arrivals_cover colors member
  exact queued.round

theorem Spreading.flood (inv : Spreading g s pending) : Spreading g (flood g s pending) [] := by
  induction s, pending using flood.induct g with
  | case1 s =>
    rw [Coloring.flood, dif_pos rfl]
    exact inv
  | case2 s front going next ih =>
    rw [Coloring.flood, dif_neg going]
    exact ih inv.advance

theorem Spreading.start (g : Graph) : Spreading g (start g).1 (start g).2 := by
  have none : ∀ near color, (near, color) ∉ (Coloring.start g).1.colors := fun _ _ => List.not_mem_nil
  constructor
  case parts => simp [Coloring.start, colored, conflicted]
  case due => exact fun a member => .inl member
  case covered =>
    rintro ref color (starts | ⟨near, has, -⟩) -
    · exact ⟨_, starts, rfl⟩
    · exact absurd has (none near color)
  case declared => exact fun a member => absurd member List.not_mem_nil
  case rooted => exact fun a member => absurd member List.not_mem_nil
  case refused => exact fun a member => absurd member List.not_mem_nil

/-- There are at most as many rounds as ports, and one in which nothing is reached. -/
theorem flood_rounds (g : Graph) (s : Coloring) (front : Front) :
    ∃ rounds ≤ s.fresh.length + 1, (Coloring.advance g)^[rounds] (s, front) = (flood g s front, []) := by
  induction s, front using flood.induct g with
  | case1 s => exact ⟨0, Nat.zero_le _, by rw [Coloring.flood, dif_pos rfl, Function.iterate_zero_apply]⟩
  | case2 s front going next ih =>
    rw [Coloring.flood, dif_neg going]
    rcases round_decreases g s (arrivals (ordered front)) with fewer | ⟨-, stopped⟩
    · obtain ⟨rounds, bound, ends⟩ := ih
      have shorter : next.1.fresh.length < s.fresh.length := fewer
      exact ⟨rounds + 1, by omega, ends⟩
    · have ended : Coloring.flood g next.1 next.2 = next.1 := by
        rw [show next.2 = [] from stopped, Coloring.flood, dif_pos rfl]
      refine ⟨1, Nat.le_add_left _ _, ?_⟩
      rw [Function.iterate_one, ended]
      exact Prod.ext rfl stopped

end Run

section Colors

variable (g : Graph)

theorem arrive_colors (s : Coloring) (ref : PortRef) (color : Flow) : s.colors ⊆ (arrive g s ref color).1.colors := by
  rcases arrive_cases g s ref color with ⟨-, same⟩ | ⟨-, -, same⟩ | ⟨-, -, same⟩ <;> rw [same]
  · exact List.Subset.refl _
  · exact List.subset_append_left _ _
  · exact List.Subset.refl _

theorem round_colors (s : Coloring) (front : Front) : s.colors ⊆ (round g s front).1.colors := by
  induction front generalizing s with
  | nil => exact List.Subset.refl _
  | cons first rest ih => exact List.Subset.trans (arrive_colors g s first.1 first.2) (ih _)

theorem flood_colors (s : Coloring) (front : Front) : s.colors ⊆ (flood g s front).colors := by
  induction s, front using flood.induct g with
  | case1 s => rw [flood, dif_pos rfl]; exact List.Subset.refl _
  | case2 s front going next =>
    rename_i ih
    rw [flood, dif_neg going]
    exact List.Subset.trans (round_colors g s _) ih

theorem round_gives {s : Coloring} {front : Front} {ref : PortRef} {color : Flow} (fresh : ref ∈ s.fresh)
    (fits : (g.declaredFlow ref).compatible color = true) (only : ∀ other, (ref, other) ∈ front → other = color)
    (member : (ref, color) ∈ front) : (ref, color) ∈ (round g s front).1.colors := by
  induction front generalizing s with
  | nil => exact absurd member List.not_mem_nil
  | cons first rest ih =>
    obtain ⟨here, given⟩ := first
    by_cases same : here = ref
    · subst same
      cases only given List.mem_cons_self
      have taken : (here, color) ∈ (arrive g s here color).1.colors := by
        simp [arrive, fresh, fits]
      exact round_colors g _ rest taken
    · have kept : ref ∈ (arrive g s here given).1.fresh := by
        have left := (List.mem_erase_of_ne (Ne.symm same)).mpr fresh
        rcases arrive_cases g s here given with ⟨-, same⟩ | ⟨-, -, same⟩ | ⟨-, -, same⟩ <;> rw [same]
        · exact fresh
        · exact left
        · exact left
      refine ih kept (fun other listed => only other (List.mem_cons_of_mem _ listed)) ?_
      rcases List.mem_cons.mp member with first | later
      · cases first
        exact absurd rfl same
      · exact later

end Colors

end Coloring
end FilterGraph
