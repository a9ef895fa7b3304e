import FilterGraph.Proofs.Coloring.Spreading
import FilterGraph.Proofs.Graph.Authored
import FilterGraph.Proofs.Registry.Integrity

namespace FilterGraph

theorem Flow.opposite_of_clash {declared reached : Flow} (clash : declared.compatible reached = false) :
    (declared = .outgoing ∧ reached = .incoming) ∨ (declared = .incoming ∧ reached = .outgoing) := by
  revert clash
  cases declared <;> cases reached <;> decide

def Graph.ColoredStep (g : Graph) (s : Coloring) (color : Flow) (a b : PortRef) : Prop :=
  g.PortStep a b ∧ s.colorOf a = color ∧ s.colorOf b = color

/-- A colour has reached the port, and it took it or refused it. -/
def Coloring.Reached (s : Coloring) (ref : PortRef) : Prop := s.colorOf ref ≠ .unset ∨ ref ∈ s.conflicted

structure Graph.Labelling (g : Graph) (s : Coloring) : Prop where
  entries : ∀ ref color, (ref, color) ∈ s.colors ↔ color ≠ .unset ∧ s.colorOf ref = color
  ports : ∀ ref, s.Reached ref → ref ∈ g.ports
  apart : ∀ ref ∈ s.conflicted, s.colorOf ref = .unset
  declared : ∀ ref, s.colorOf ref ≠ .unset → g.declaredFlow ref = .unset ∨ g.declaredFlow ref = s.colorOf ref
  source : ∀ n, g.node? sourceId = some n → ∀ ref ∈ n.outputRefs, s.colorOf ref = .incoming
  localhost : ∀ n, g.node? localhostId = some n → ∀ ref ∈ n.inputRefs, s.colorOf ref = .outgoing
  incoming : ∀ ref, s.colorOf ref = .incoming → ∃ n start, g.node? sourceId = some n ∧ start ∈ n.outputRefs ∧
    Relation.ReflTransGen (g.ColoredStep s .incoming) start ref
  outgoing : ∀ ref, s.colorOf ref = .outgoing → ∃ n stop, g.node? localhostId = some n ∧ stop ∈ n.inputRefs ∧
    Relation.ReflTransGen (g.ColoredStep s .outgoing) ref stop
  downstream : ∀ a b, g.PortStep a b → s.colorOf a = .incoming → s.Reached b
  upstream : ∀ a b, g.PortStep a b → s.colorOf b = .outgoing → s.Reached a
  refused : ∀ ref ∈ s.conflicted,
    (g.declaredFlow ref = .outgoing ∧ ∃ near, g.PortStep near ref ∧ s.colorOf near = .incoming) ∨
      (g.declaredFlow ref = .incoming ∧ ∃ near, g.PortStep ref near ∧ s.colorOf near = .outgoing)
  kinds : ∀ f ∈ s.findings g, f.kind = "color_conflict"
  found : ∀ ref, (s.findings g).countP (fun f => f.node == ref.node && f.port? == some ref.port) =
    if ref ∈ s.conflicted then 1 else 0

namespace Graph

variable {r : Registry} {g : Graph}

theorem Sound.declaredFlow_unset (sound : g.Sound r) (differ : g.PortsDiffer) {n : Node} (member : n ∈ g.nodes)
    (unset : ∀ p ∈ n.type.ports, p.flow = .unset) {ref : PortRef} (listed : ref ∈ n.refs) :
    g.declaredFlow ref = .unset := by
  obtain ⟨p, declared, rfl⟩ := List.mem_map.mp listed
  rw [declaredFlow, sound.port?_of_listed differ member declared, Option.map_some, Option.getD_some, unset p declared]

theorem WellFormed.firstFront_unset (built : r.Built) (wf : g.WellFormed r) (differ : g.PortsDiffer) {ref : PortRef}
    {color : Flow} (starts : (ref, color) ∈ g.firstFront) : g.declaredFlow ref = .unset := by
  rcases mem_firstFront.mp starts with ⟨-, n, node, listed⟩ | ⟨-, n, node, listed⟩
  · obtain ⟨m, same, type⟩ := wf.source_node built
    cases node.symm.trans same
    have unset : ∀ p ∈ n.type.ports, p.flow = .unset := by
      rw [type]
      decide
    exact wf.declaredFlow_unset differ (node?_mem node).1 unset (outputRefs_subset n listed)
  · obtain ⟨m, same, type⟩ := wf.localhost_node built
    cases node.symm.trans same
    have unset : ∀ p ∈ n.type.ports, p.flow = .unset := by
      rw [type]
      decide
    exact wf.declaredFlow_unset differ (node?_mem node).1 unset (inputRefs_subset n listed)

theorem firstFront_ports {ref : PortRef} {color : Flow} (starts : (ref, color) ∈ g.firstFront) : ref ∈ g.ports := by
  rcases mem_firstFront.mp starts with ⟨-, n, node, listed⟩ | ⟨-, n, node, listed⟩
  · exact mem_ports.mpr ⟨n, (node?_mem node).1, outputRefs_subset n listed⟩
  · exact mem_ports.mpr ⟨n, (node?_mem node).1, inputRefs_subset n listed⟩

theorem firstFront_unique {ref : PortRef} {color other : Flow} (starts : (ref, color) ∈ g.firstFront)
    (again : (ref, other) ∈ g.firstFront) : other = color := by
  have apart : sourceId ≠ localhostId := by decide
  rcases mem_firstFront.mp starts with ⟨rfl, n, node, left⟩ | ⟨rfl, n, node, left⟩ <;>
    rcases mem_firstFront.mp again with ⟨rfl, m, same, right⟩ | ⟨rfl, m, same, right⟩
  · rfl
  · have ids := (outputRefs_node left).symm.trans (inputRefs_node right)
    rw [(node?_mem node).2, (node?_mem same).2] at ids
    exact absurd ids apart
  · have ids := (outputRefs_node right).symm.trans (inputRefs_node left)
    rw [(node?_mem node).2, (node?_mem same).2] at ids
    exact absurd ids apart
  · rfl

end Graph

namespace Coloring

section Steps

variable {r : Registry} {g : Graph} (sound : g.Sound r) (differ : g.PortsDiffer)

include sound differ

theorem mem_spread_incoming {a b : PortRef} : b ∈ g.spread .incoming a ↔ g.PortStep a b :=
  sound.mem_portsAfter differ

theorem mem_spread_outgoing {a b : PortRef} : a ∈ g.spread .outgoing b ↔ g.PortStep a b :=
  sound.mem_portsBefore differ

theorem Due.mem_ports {s : Coloring} {ref : PortRef} {color : Flow} (due : Due g s ref color) : ref ∈ g.ports := by
  rcases due with starts | ⟨near, -, spreads⟩
  · exact Graph.firstFront_ports starts
  · unfold Graph.spread at spreads
    split at spreads
    · exact (sound.step_mem_ports ((sound.mem_portsAfter differ).mp spreads)).2
    · exact (sound.step_mem_ports ((sound.mem_portsBefore differ).mp spreads)).1

end Steps

theorem rounds_spreading (g : Graph) (rounds : Nat) :
    Spreading g ((advance g)^[rounds] (start g)).1 ((advance g)^[rounds] (start g)).2 := by
  induction rounds with
  | zero => exact .start g
  | succ rounds ih =>
    rw [Function.iterate_succ_apply']
    exact ih.advance

namespace Spreading

variable {g : Graph} {s : Coloring} (inv : Spreading g s [])

include inv

theorem reached_nodup : (s.colored ++ s.conflicted).Nodup := (List.nodup_append.mp inv.distinct).2.1

theorem mem_colors {ref : PortRef} {color : Flow} :
    (ref, color) ∈ s.colors ↔ color ≠ .unset ∧ s.colorOf ref = color := by
  have keys : (s.colors.map (·.1)).Nodup := (List.nodup_append.mp inv.reached_nodup).1
  unfold colorOf
  constructor
  · intro member
    obtain ⟨start, starts, -⟩ := inv.rooted _ member
    exact ⟨firstFront_colored g _ starts, by rw [(Entries.get?_eq_some keys).mpr member, Option.getD_some]⟩
  · rintro ⟨unset, same⟩
    refine Entries.mem_of_get? ?_
    cases found : s.colors.get? ref with
    | none =>
      rw [found] at same
      exact absurd same.symm unset
    | some color => rw [found] at same; exact congrArg some same

theorem mem_colored {ref : PortRef} : ref ∈ s.colored ↔ s.colorOf ref ≠ .unset := by
  constructor
  · intro listed
    obtain ⟨⟨ref, color⟩, member, rfl⟩ := List.mem_map.mp listed
    obtain ⟨unset, same⟩ := inv.mem_colors.mp member
    exact same ▸ unset
  · intro unset
    exact List.mem_map.mpr ⟨_, inv.mem_colors.mpr ⟨unset, rfl⟩, rfl⟩

theorem mem_ports {ref : PortRef} : ref ∈ g.ports ↔ ref ∈ s.fresh ∨ s.Reached ref := by
  rw [← List.mem_eraseDups, ← inv.parts.mem_iff, List.mem_append, List.mem_append, inv.mem_colored, Reached]

theorem reached_of_due {ref : PortRef} {color : Flow} (due : Due g s ref color) (port : ref ∈ g.ports) :
    s.Reached ref := by
  rcases inv.mem_ports.mp port with fresh | reached
  · obtain ⟨a, member, -⟩ := inv.covered ref color due fresh
    exact absurd member List.not_mem_nil
  · exact reached

theorem conflicted_unset {ref : PortRef} (conflict : ref ∈ s.conflicted) : s.colorOf ref = .unset := by
  by_contra unset
  exact (List.nodup_append.mp inv.reached_nodup).2.2 ref (inv.mem_colored.mpr unset) ref conflict rfl

theorem colorOf_declared {ref : PortRef} (unset : s.colorOf ref ≠ .unset) :
    g.declaredFlow ref = .unset ∨ g.declaredFlow ref = s.colorOf ref := by
  have fits := inv.declared _ (inv.mem_colors.mpr ⟨unset, rfl⟩)
  simp only [Flow.compatible, Bool.or_eq_true, beq_iff_eq] at fits
  rcases fits with (none | none) | same
  · exact .inl none
  · exact absurd none unset
  · exact .inr same

theorem count_findings (ref : PortRef) :
    (s.findings g).countP (fun f => f.node == ref.node && f.port? == some ref.port) =
      if ref ∈ s.conflicted then 1 else 0 := by
  have counted : (s.findings g).countP (fun f => f.node == ref.node && f.port? == some ref.port) =
      s.conflicted.count ref := by
    rw [findings, conflicted, List.count, List.countP_map, List.countP_map]
    obtain ⟨node, port⟩ := ref
    refine List.countP_congr fun a _ => ?_
    simp [Finding.node, Finding.port?, ← PortRef.mk.injEq]
  rw [counted]
  split
  case isTrue listed => exact List.count_eq_one_of_mem (List.nodup_append.mp inv.reached_nodup).2.1 listed
  case isFalse missing => exact List.count_eq_zero_of_not_mem missing

end Spreading

theorem coloring_spreading (g : Graph) : Spreading g g.coloring [] := (Spreading.start g).flood

end Coloring

namespace Graph

variable {r : Registry} {g : Graph} (built : r.Built) (wf : g.WellFormed r) (differ : g.PortsDiffer)

include built wf differ

theorem WellFormed.firstFront_colored {ref : PortRef} {color : Flow} (starts : (ref, color) ∈ g.firstFront) :
    g.coloring.colorOf ref = color := by
  have colors := Coloring.firstFront_colored g
  have fresh : ref ∈ (Coloring.start g).1.fresh := List.mem_eraseDups.mpr (firstFront_ports starts)
  have fits : (g.declaredFlow ref).compatible color = true := by
    rw [wf.firstFront_unset built differ starts]
    rfl
  have only : ∀ other, (ref, other) ∈ Coloring.arrivals (Coloring.ordered g.firstFront) → other = color :=
    fun other arrives => firstFront_unique starts (Coloring.arrivals_subset colors arrives)
  have arrives : (ref, color) ∈ Coloring.arrivals (Coloring.ordered g.firstFront) := by
    obtain ⟨⟨same, other⟩, member, rfl⟩ := Coloring.arrivals_cover colors starts
    exact only other member ▸ member
  have given := Coloring.round_gives g fresh fits only arrives
  have going : g.firstFront ≠ [] := List.ne_nil_of_mem starts
  have kept : (ref, color) ∈ g.coloring.colors := by
    rw [coloring, Coloring.flood, dif_neg going]
    exact Coloring.flood_colors g _ _ given
  exact ((Coloring.coloring_spreading g).mem_colors.mp kept).2

theorem WellFormed.coloring_labelling : g.Labelling g.coloring := by
  have inv := Coloring.coloring_spreading g
  have has : ∀ {ref color}, (ref, color) ∈ g.coloring.colors → g.coloring.colorOf ref = color :=
    fun member => (inv.mem_colors.mp member).2
  have listed : ∀ {ref color}, g.coloring.colorOf ref = color → color ≠ .unset → (ref, color) ∈ g.coloring.colors :=
    fun same unset => inv.mem_colors.mpr ⟨unset, same⟩
  constructor
  case entries => exact fun ref color => inv.mem_colors
  case ports => exact fun ref reached => inv.mem_ports.mpr (.inr reached)
  case apart => exact fun ref conflict => inv.conflicted_unset conflict
  case declared => exact fun ref unset => inv.colorOf_declared unset
  case source =>
    intro n node ref output
    exact wf.firstFront_colored built differ (mem_firstFront.mpr (.inl ⟨rfl, n, node, output⟩))
  case localhost =>
    intro n node ref input
    exact wf.firstFront_colored built differ (mem_firstFront.mpr (.inr ⟨rfl, n, node, input⟩))
  case incoming =>
    intro ref color
    obtain ⟨start, starts, way⟩ := inv.rooted _ (listed color Flow.noConfusion)
    rcases mem_firstFront.mp starts with ⟨-, n, node, output⟩ | ⟨other, -⟩
    · refine ⟨n, start, node, output, way.lift id ?_⟩
      rintro a b ⟨left, right, spreads⟩
      exact ⟨(Coloring.mem_spread_incoming wf.toSound differ).mp spreads, has left, has right⟩
    · cases other
  case outgoing =>
    intro ref color
    obtain ⟨stop, starts, way⟩ := inv.rooted _ (listed color Flow.noConfusion)
    rcases mem_firstFront.mp starts with ⟨other, -⟩ | ⟨-, n, node, input⟩
    · cases other
    · refine ⟨n, stop, node, input, way.swap.lift id ?_⟩
      rintro a b ⟨left, right, spreads⟩
      exact ⟨(Coloring.mem_spread_outgoing wf.toSound differ).mp spreads, has right, has left⟩
  case downstream =>
    intro a b step color
    have spreads := (Coloring.mem_spread_incoming wf.toSound differ).mpr step
    have near := listed color Flow.noConfusion
    exact inv.reached_of_due (.inr ⟨a, near, spreads⟩) (wf.step_mem_ports step).2
  case upstream =>
    intro a b step color
    have spreads := (Coloring.mem_spread_outgoing wf.toSound differ).mpr step
    have near := listed color Flow.noConfusion
    exact inv.reached_of_due (.inr ⟨b, near, spreads⟩) (wf.step_mem_ports step).1
  case refused =>
    intro ref conflict
    obtain ⟨⟨ref, color⟩, member, rfl⟩ := List.mem_map.mp conflict
    obtain ⟨clash, due⟩ := inv.refused _ member
    -- at a port of the first front nothing clashes, so the refused colour came from a neighbour
    rcases due with starts | ⟨near, given, spreads⟩
    · rw [wf.firstFront_unset built differ starts] at clash
      cases clash
    · rcases Flow.opposite_of_clash clash with ⟨declared, rfl⟩ | ⟨declared, rfl⟩
      · exact .inl ⟨declared, near, (Coloring.mem_spread_incoming wf.toSound differ).mp spreads, has given⟩
      · exact .inr ⟨declared, near, (Coloring.mem_spread_outgoing wf.toSound differ).mp spreads, has given⟩
  case kinds =>
    intro f member
    obtain ⟨a, -, rfl⟩ := List.mem_map.mp member
    rfl
  case found => exact inv.count_findings

omit built wf differ

/-- Colouring ends after at most one round more than there are ports, looks at ports of the graph only, and comes to a
    labelling that is sound and closed. -/
theorem coloring_result (authored : Authored r g) (differ : g.PortsDiffer) :
    (∃ rounds ≤ g.ports.length + 1, (Coloring.advance g)^[rounds] (Coloring.start g) = (g.coloring, [])) ∧
      (∀ rounds, ∀ a ∈ ((Coloring.advance g)^[rounds] (Coloring.start g)).2, ∃ p, g.port? a.1 = some p) ∧
      g.Labelling g.coloring := by
  obtain ⟨built, wf⟩ := authored.well_formed
  refine ⟨?_, ?_, wf.coloring_labelling built differ⟩
  · obtain ⟨rounds, bound, ends⟩ := Coloring.flood_rounds g (Coloring.start g).1 (Coloring.start g).2
    have fewer : g.ports.eraseDups.length ≤ g.ports.length :=
      ((eraseDups_nodup _).subperm fun _ => List.mem_eraseDups.mp).length_le
    have fresh : (Coloring.start g).1.fresh.length = g.ports.eraseDups.length := rfl
    exact ⟨rounds, by omega, ends⟩
  · intro rounds a member
    have due := (Coloring.rounds_spreading g rounds).due a member
    exact wf.port?_isSome differ (due.mem_ports wf.toSound differ)

def uplink : Bundle :=
  { id := "lab", fingerprint := "uplink"
    types := [{ Builtin.drop.nodeType with
      typeId := "lab:uplink", extension? := some "lab"
      ports := [.input, { name := "out", kind := .output, flow := .outgoing }] }] }

def uplinked : Registry :=
  { types := Registry.builtin.types ++ uplink.types, extensions := [(uplink.id, uplink.fingerprint)] }

/-- All traffic goes round through the uplink and never to the local machine. -/
def looped : Graph :=
  Graph.new.edits uplinked
    [.add "lab:uplink" (some "uplink") [] (.list [.int 0, .int 0]),
      .add "core:source_nat" (some "nat") [] (.list [.int 0, .int 0]),
      .connect ⟨⟨sourceId, "out"⟩, ⟨"uplink", "in"⟩⟩, .connect ⟨⟨"uplink", "out"⟩, ⟨"nat", "in"⟩⟩,
      .connect ⟨⟨"nat", "out"⟩, ⟨"uplink", "in"⟩⟩]

theorem looped_conflict :
    (∃ rounds, (Coloring.advance looped)^[rounds] (Coloring.start looped) = (looped.coloring, [])) ∧
      looped.Labelling looped.coloring ∧ looped.coloring.colorOf ⟨"uplink", "in"⟩ = .incoming ∧
        ⟨"uplink", "out"⟩ ∈ looped.coloring.conflicted := by
  have loading : Registry.builtin.load uplink = .ok (uplinked, true) :=
    Registry.load_of_new rfl (Registry.clashes_eq_nil.mpr (by decide))
  have authored : Authored uplinked looped := .edits (.new (.loaded .builtin loading)) _
  have differ : looped.PortsDiffer := by
    unfold PortsDiffer NodeType.PortsDiffer
    decide +kernel
  obtain ⟨⟨rounds, -, ends⟩, -, labelling⟩ := coloring_result authored differ
  refine ⟨⟨rounds, ends⟩, labelling, ?_⟩
  -- Nothing is connected to the local machine, so no other port is outgoing.
  have outgoing : ∀ ref, looped.coloring.colorOf ref = .outgoing → ref.node = localhostId := by
    have wires : ∀ c ∈ looped.connections, c.input.node ≠ localhostId := by decide +kernel
    have outputs : ∀ n ∈ looped.nodes, ∀ ref ∈ n.outputRefs, ref.node ≠ localhostId := by decide +kernel
    intro ref color
    obtain ⟨n, stop, node, input, way⟩ := labelling.outgoing ref color
    have last : stop.node = localhostId := (inputRefs_node input).trans (node?_mem node).2
    rcases way.cases_tail with rfl | ⟨near, -, step, -⟩
    · exact last
    · cases step with
      | wire member => exact absurd last (wires _ member)
      | through member _ output => exact absurd last (outputs _ member _ output)
  have settled : ∀ ref, looped.coloring.Reached ref → ref.node ≠ localhostId →
      looped.coloring.colorOf ref = .incoming ∨ ref ∈ looped.coloring.conflicted := by
    rintro ref (unset | conflict) apart
    · cases color : looped.coloring.colorOf ref with
      | unset => exact absurd color unset
      | incoming => exact .inl rfl
      | outgoing => exact absurd (outgoing ref color) apart
    · exact .inr conflict
  have start : looped.coloring.colorOf ⟨sourceId, "out"⟩ = .incoming :=
    labelling.source _ (by rfl) _ (by decide +kernel)
  have wire : looped.PortStep ⟨sourceId, "out"⟩ ⟨"uplink", "in"⟩ :=
    .wire (c := ⟨⟨sourceId, "out"⟩, ⟨"uplink", "in"⟩⟩) (by decide +kernel)
  have entered : looped.coloring.colorOf ⟨"uplink", "in"⟩ = .incoming := by
    have unset : looped.declaredFlow ⟨"uplink", "in"⟩ = .unset := by decide +kernel
    rcases settled _ (labelling.downstream _ _ wire start) (by decide) with color | conflict
    · exact color
    · rcases labelling.refused _ conflict with ⟨declared, -⟩ | ⟨declared, -⟩ <;> cases unset.symm.trans declared
  refine ⟨entered, ?_⟩
  have through : looped.PortStep ⟨"uplink", "in"⟩ ⟨"uplink", "out"⟩ := by
    have member : ∃ n ∈ looped.nodes, ⟨"uplink", "in"⟩ ∈ n.inputRefs ∧ ⟨"uplink", "out"⟩ ∈ n.outputRefs := by
      decide +kernel
    obtain ⟨n, listed, input, output⟩ := member
    exact .through listed input output
  rcases settled _ (labelling.downstream _ _ through entered) (by decide) with color | conflict
  · have declared : looped.declaredFlow ⟨"uplink", "out"⟩ = .outgoing := by decide +kernel
    have accepts := labelling.declared ⟨"uplink", "out"⟩ (color ▸ by decide)
    rw [declared, color] at accepts
    exact absurd accepts (by decide)
  · exact conflict

end Graph
end FilterGraph
