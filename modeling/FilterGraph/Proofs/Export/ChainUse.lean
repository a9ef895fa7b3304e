import FilterGraph.Proofs.Export.Blame
import FilterGraph.Proofs.Export.ChainLines
import FilterGraph.Proofs.Export.Reporting

namespace FilterGraph

theorem NodeType.Standard.reports {t : NodeType} (standard : t.Standard) (node : NodeView)
    (incoming outgoing : List Connection) (site : Site) : FailsBy EmitError.OfNode (t.emit node incoming outgoing site) := by
  cases standard with
  | builtin b => exact Builtin.emit_reports node outgoing site b incoming
  | @manifest v m checked name spec listed => exact NodeSpec.emit_reports node outgoing site m.id name spec incoming

namespace Plan

variable {p : Plan} {s : Settings} {files : FileTree} {ls : Entries String Listing}

structure Lists (p : Plan) (s : Settings) (files : FileTree) (ls : Entries String Listing) : Prop where
  keys : ls.map (·.1) = p.marked.map (·.1)
  listed : ∀ e ∈ ls, ∃ n mark, p.analysis.graph.node? e.1 = some n ∧ (e.1, mark) ∈ p.marked ∧
    n.type.Lists n.view (p.analysis.graph.outgoing e.1) (p.site s files mark e.1) e.2

structure Laid (p : Plan) (s : Settings) (files : FileTree) (ls : Entries String Listing) : Prop where
  keys : ls.map (·.1) = p.marked.map (·.1)
  placed : ∀ e ∈ ls, ∃ n mark, p.analysis.graph.node? e.1 = some n ∧
    e.2.Placed n.type n.view (p.analysis.graph.outgoing e.1) (p.site s files mark e.1)

theorem scriptLines_flatten (p : Plan) (s : Settings) (ls : Entries String Listing) :
    (p.scriptLines s ls).flatten = Script.preamble s p.analysis.graph p.chains ++ ls.flatMap (fun e => e.2.lines) ++
      (if (Emission.statements (emissions ls)).isEmpty then [] else Script.natLines (Emission.statements (emissions ls))) ++
      Script.epilogue := by
  rw [scriptLines]
  cases (Emission.statements (emissions ls)).isEmpty <;> simp [List.flatMap]

def hooks (ls : Entries String Listing) : List String :=
  ((Emission.statements (emissions ls)).mergeSort fun a b => a.1 ≤ b.1).map (·.1)

theorem hooks_nodup (ls : Entries String Listing) : (hooks ls).Nodup :=
  ((List.mergeSort_perm _ _).map _).nodup_iff.mpr (Emission.statements_nodup _)

theorem mem_hooks {hook : String} : hook ∈ hooks ls ↔ ∃ e ∈ ls, hook ∈ e.2.nat.map (·.1) := by
  have sorted := ((Emission.statements (emissions ls)).mergeSort_perm fun a b => a.1 ≤ b.1).map Prod.fst
  rw [hooks, sorted.mem_iff, Emission.mem_statements]
  constructor
  · rintro ⟨emission, made, stated⟩
    obtain ⟨e, listed, rfl⟩ := List.mem_map.mp made
    exact ⟨e, listed, stated⟩
  · rintro ⟨e, listed, stated⟩
    exact ⟨_, List.mem_map_of_mem listed, stated⟩

theorem Complete.chains_names (complete : p.Complete) : p.chains.map (·.2) = p.order.map chainName := by
  rw [complete.chains, List.map_map]
  rfl

theorem Laid.hook_known (laid : p.Laid s files ls) {hook : String} (used : hook ∈ hooks ls) :
    ∃ side : Side, hook = side.hook := by
  obtain ⟨e, listed, stated⟩ := mem_hooks.mp used
  obtain ⟨n, mark, -, placed⟩ := laid.placed e listed
  obtain ⟨side, same, -⟩ := (placed.hooks hook).mp stated
  exact ⟨side, same⟩

/-- The chains of the nodes are declared first, then those at the hooks that are used. -/
theorem Laid.declared (complete : p.Complete) (laid : p.Laid s files ls) :
    Script.declared (p.scriptLines s ls).flatten = p.order.map chainName ++ (hooks ls).map ("nat_" ++ ·) := by
  have nodes : Script.declared (ls.flatMap fun e => e.2.lines) = [] := by
    refine List.filterMap_eq_nil_iff.mpr fun line member => ?_
    obtain ⟨e, listed, inside⟩ := List.mem_flatMap.mp member
    obtain ⟨n, mark, -, placed⟩ := laid.placed e listed
    exact (placed.lines line inside).declared?
  have nat : Script.declared (if (Emission.statements (emissions ls)).isEmpty then []
      else Script.natLines (Emission.statements (emissions ls))) = (hooks ls).map ("nat_" ++ ·) := by
    rw [hooks, List.map_map]
    split
    · rename_i none
      rw [List.isEmpty_iff.mp none, List.mergeSort_nil]
      rfl
    · refine Script.declared_natLines fun e member => laid.hook_known ?_
      exact List.mem_map_of_mem (List.mem_mergeSort.mpr member)
  have stop : Script.declared Script.epilogue = [] := rfl
  rw [scriptLines_flatten, Script.declared_append, Script.declared_append, Script.declared_append, Script.declared_preamble,
    complete.chains_names, nodes, nat, stop, List.append_nil, List.append_nil]

theorem Laid.mem_order (laid : p.Laid s files ls) {e : String × Listing} (member : e ∈ ls) : e.1 ∈ p.order := by
  have listed : e.1 ∈ p.marked.map (·.1) := laid.keys ▸ List.mem_map_of_mem member
  obtain ⟨⟨id, mark⟩, marked, same⟩ := List.mem_map.mp listed
  exact same ▸ List.mem_of_getElem? (mem_marked.mp marked).1

theorem Laid.follows (complete : p.Complete) (source : sourceId ∈ p.order) (localhost : localhostId ∈ p.order)
    (laid : p.Laid s files ls) : Script.Follows [] (p.scriptLines s ls).flatten := by
  have named : ∀ id ∈ p.order, chainName id ∈ p.chains.map (·.2) :=
    fun id member => complete.chains_names ▸ List.mem_map_of_mem member
  rw [scriptLines_flatten, Script.follows_append, Script.follows_append, Script.follows_append, Script.declared_append,
    Script.declared_append, Script.declared_preamble]
  refine ⟨⟨⟨Script.preamble_follows s _ p.chains (named _ source), Script.follows_of_known ?_⟩, ?_⟩, ?_⟩
  · intro line member chain extended
    obtain ⟨e, listed, inside⟩ := List.mem_flatMap.mp member
    obtain ⟨n, mark, node, placed⟩ := laid.placed e listed
    obtain ⟨-, id⟩ := Graph.node?_mem node
    have own : chain = chainName e.1 := ((placed.lines line inside).extended? extended).trans (congrArg chainName id)
    exact own ▸ List.mem_append_right _ (named _ (laid.mem_order listed))
  · split
    · trivial
    · exact Script.natLines_follow _ _
  · refine Script.follows_of_known fun line member chain extended => ?_
    rcases List.mem_cons.mp member with rfl | last
    · cases extended
    · rw [List.mem_singleton.mp last] at extended
      cases extended
      simp only [List.nil_append, Script.declared_append, Script.declared_preamble, List.mem_append]
      exact .inl (.inl (named _ localhost))

theorem Complete.declared_nodup (complete : p.Complete) (ls : Entries String Listing) :
    (p.order.map chainName ++ (hooks ls).map ("nat_" ++ ·)).Nodup := by
  refine List.nodup_append'.mpr ⟨complete.names, (hooks_nodup ls).map fun a b same => ?_, fun name left right => ?_⟩
  · have same : "nat_" ++ a = "nat_" ++ b := same
    rw [← String.toList_inj, String.toList_append, String.toList_append, List.append_cancel_left_eq] at same
    exact String.toList_inj.mp same
  · obtain ⟨id, -, rfl⟩ := List.mem_map.mp left
    obtain ⟨hook, -, same⟩ := List.mem_map.mp right
    exact chainName_ne_nat id hook same.symm

theorem Lists.laid {r : Registry} (complete : p.Complete) (sound : p.analysis.graph.Sound r)
    (lists : p.Lists s files ls) : p.Laid s files ls := by
  refine ⟨lists.keys, fun e member => ?_⟩
  obtain ⟨n, mark, node, marked, listed⟩ := lists.listed e member
  obtain ⟨present, id⟩ := Graph.node?_mem node
  obtain ⟨source, localhost⟩ := sound.paired n present
  obtain ⟨notSource, notLocalhost⟩ := Bool.or_eq_false_iff.mp (mem_marked.mp marked).2
  refine ⟨n, mark, node, listed.placed ⟨fun same => ?_, fun same => ?_⟩ (site_named complete mark e.1)⟩
  · exact ne_of_beq_false notSource (id.symm.trans (source.mp (congrArg NodeType.typeId same)))
  · exact ne_of_beq_false notLocalhost (id.symm.trans (localhost.mp (congrArg NodeType.typeId same)))

theorem emitAll_made {nodes : List (String × Nat)} (done : (p.emitAll s files nodes).2 = none) :
    List.Forall₂ (fun node e => p.emit s files node.2 node.1 = .ok e) nodes (p.emitAll s files nodes).1 := by
  induction nodes with
  | nil => exact .nil
  | cons node rest ih =>
    rw [emitAll] at done ⊢
    cases first : p.emit s files node.2 node.1 with
    | error e =>
      rw [first] at done
      cases done
    | ok e =>
      rw [first] at done
      exact .cons first (ih done)

theorem emit_lists (standard : ∀ n ∈ p.analysis.graph.nodes, n.type.Standard) {id : String} {mark : Nat} {e : Emission}
    (done : p.emit s files mark id = .ok e) : ∃ n l, p.analysis.graph.node? id = some n ∧ e = ⟨id, l.fragment⟩ ∧
      n.type.Lists n.view (p.analysis.graph.outgoing id) (p.site s files mark id) l := by
  obtain ⟨n, node, same, made, -⟩ := emit_made done
  obtain ⟨present, rfl⟩ := Graph.node?_mem node
  obtain ⟨l, fragment, listed⟩ := (standard n present).emitted made
  refine ⟨n, l, node, ?_, listed⟩
  rw [← same, ← fragment]

theorem emitAll_lists (standard : ∀ n ∈ p.analysis.graph.nodes, n.type.Standard) {nodes : List (String × Nat)}
    (done : (p.emitAll s files nodes).2 = none) : ∃ ls, (p.emitAll s files nodes).1 = emissions ls ∧
      ls.map (·.1) = nodes.map (·.1) ∧ ∀ e ∈ ls, ∃ n mark, p.analysis.graph.node? e.1 = some n ∧ (e.1, mark) ∈ nodes ∧
        n.type.Lists n.view (p.analysis.graph.outgoing e.1) (p.site s files mark e.1) e.2 := by
  have made := emitAll_made done
  generalize (p.emitAll s files nodes).1 = es at made ⊢
  clear done
  induction made with
  | nil => exact ⟨[], rfl, rfl, nofun⟩
  | @cons node _ _ _ first _ ih =>
    obtain ⟨ls, rfl, keys, listed⟩ := ih
    obtain ⟨n, l, here, rfl, own⟩ := emit_lists standard first
    refine ⟨(node.1, l) :: ls, rfl, congrArg (_ :: ·) keys, ?_⟩
    refine List.forall_mem_cons.mpr ⟨⟨n, node.2, here, List.mem_cons_self, own⟩, fun other member => ?_⟩
    obtain ⟨n, mark, there, marked, lists⟩ := listed other member
    exact ⟨n, mark, there, List.mem_cons_of_mem _ marked, lists⟩

theorem Laid.script_eq (complete : p.Complete) (laid : p.Laid s files ls) :
    (p.assembled s (emissions ls)).script = Script.written (p.scriptLines s ls) := by
  have nodes : (emissions ls).filterMap (·.fragment.section?) = ls.map fun e => withoutFeeds (ScriptLine.joined e.2.lines) := by
    rw [emissions, List.filterMap_map, ← List.filterMap_eq_map']
    refine List.filterMap_congr fun e member => ?_
    obtain ⟨n, mark, -, placed⟩ := laid.placed e member
    exact Fragment.section?_eq placed.solid
  have preamble : Closed (ScriptLine.joined (Script.preamble s p.analysis.graph p.chains)) := by
    refine Script.preamble_closed _ _ ?_ fun e member => ?_
    · rw [complete.chains]
      have first := complete.first
      intro none
      rw [List.map_eq_nil_iff.mp none] at first
      cases first
    · rw [complete.chains] at member
      obtain ⟨id, -, rfl⟩ := List.mem_map.mp member
      rfl
  have epilogue : Closed (ScriptLine.joined Script.epilogue) := ScriptLine.joined_closed rfl (ScriptLine.rule_closed _)
  have sections : p.sections s (emissions ls) =
      (p.scriptLines s ls).map fun lines => withoutFeeds (ScriptLine.joined lines) := by
    simp only [Plan.sections, nodes, scriptLines]
    cases (Emission.statements (emissions ls)).isEmpty <;>
      simp [preamble.withoutFeeds_eq, epilogue.withoutFeeds_eq, (Script.natLines_closed _).withoutFeeds_eq]
  rw [assembled, sections]
  rfl

/-- Only a rule of the source or of a node goes on, along a connection of the graph. -/
theorem Laid.goto {r : Registry} (complete : p.Complete) (sound : p.analysis.graph.Sound r) (laid : p.Laid s files ls)
    {rule : Rule} {target : String} (stated : .rule rule ∈ (p.scriptLines s ls).flatten) (goto : rule.verdict = .goto target) :
    ∃ c ∈ p.analysis.graph.connections, rule.chain = chainName c.output.node ∧ target = chainName c.input.node := by
  have inside : rule ∈ Script.rules (p.scriptLines s ls) := List.mem_filterMap.mpr ⟨_, stated, rfl⟩
  rw [rules_eq, List.mem_append, List.mem_append] at inside
  rcases inside with (sent | own) | last
  · obtain ⟨c, leaving, rfl⟩ := List.mem_map.mp sent
    obtain ⟨member, node⟩ := Graph.outgoing_sound leaving
    have listed : c.input.node ∈ p.order := (complete.ids _).mpr (sound.connections c member).input_mem
    refine ⟨c, member, congrArg chainName node.symm, ?_⟩
    cases goto
    rw [complete.get?_chains.mpr ⟨listed, rfl⟩]
    rfl
  · obtain ⟨e, listed, mine⟩ := List.mem_flatMap.mp own
    obtain ⟨line, present, isRule⟩ := List.mem_filterMap.mp mine
    obtain ⟨n, mark, node, placed⟩ := laid.placed e listed
    obtain ⟨-, id⟩ := Graph.node?_mem node
    cases placed.lines line present with
    | rule here =>
      cases isRule
      obtain ⟨c, leaving, known⟩ := here.goto target goto
      obtain ⟨member, origin⟩ := Graph.outgoing_sound leaving
      refine ⟨c, member, ?_, (complete.get?_chains.mp known).2⟩
      rw [here.chain, origin, ← id]
      rfl
    | _ => cases isRule
  · rw [List.mem_singleton.mp last] at goto
    cases goto

theorem Laid.mem_hooks_iff {r : Registry} (complete : p.Complete) (sound : p.analysis.graph.Sound r)
    (laid : p.Laid s files ls) {hook : String} : hook ∈ hooks ls ↔
      ∃ side : Side, hook = side.hook ∧ ∃ n ∈ p.analysis.graph.nodes, n.type = (Builtin.nat side).nodeType := by
  constructor
  · intro used
    obtain ⟨e, listed, stated⟩ := mem_hooks.mp used
    obtain ⟨n, mark, node, placed⟩ := laid.placed e listed
    obtain ⟨side, same, type⟩ := (placed.hooks hook).mp stated
    exact ⟨side, same, n, (Graph.node?_mem node).1, type⟩
  · rintro ⟨side, rfl, n, present, type⟩
    have inner : isPermanentId n.id = false := by
      obtain ⟨source, localhost⟩ := sound.paired n present
      rw [← Bool.not_eq_true]
      intro permanent
      have other : (Builtin.nat side).typeId ≠ Builtin.source.typeId ∧ (Builtin.nat side).typeId ≠ Builtin.localhost.typeId := by
        cases side <;> decide
      rcases isPermanentId_iff.mp permanent with here | here
      · exact other.1 ((congrArg NodeType.typeId type).symm.trans (source.mpr here))
      · exact other.2 ((congrArg NodeType.typeId type).symm.trans (localhost.mpr here))
    obtain ⟨mark, place⟩ := List.getElem?_of_mem ((complete.ids n.id).mpr (Graph.mem_nodeIds.mpr ⟨n, present, rfl⟩))
    have marked : n.id ∈ ls.map (·.1) := laid.keys ▸ List.mem_map_of_mem (mem_marked.mpr ⟨place, inner⟩)
    obtain ⟨e, listed, same⟩ := List.mem_map.mp marked
    obtain ⟨n', mark, node, placed⟩ := laid.placed e listed
    cases (same ▸ node).symm.trans (sound.node?_of_mem present)
    exact mem_hooks.mpr ⟨e, listed, (placed.hooks _).mpr ⟨side, rfl, type⟩⟩

end Plan

namespace Graph

/-- The chains of a script for a graph: the nodes of the order have one each, and so have the hooks that are used; rules
are added to chains declared before and go on along connections. -/
structure ChainUse (g : Graph) (order : List String) (lines : List ScriptLine) : Prop where
  declared : ∃ hooks : List String, Script.declared lines = order.map chainName ++ hooks.map ("nat_" ++ ·) ∧
    ∀ hook, hook ∈ hooks ↔ ∃ side : Side, hook = side.hook ∧ ∃ n ∈ g.nodes, n.type = (Builtin.nat side).nodeType
  distinct : (Script.declared lines).Nodup
  earlier : ∀ before line after chain, lines = before ++ line :: after → line.extended? = some chain →
    chain ∈ Script.declared before
  goto : ∀ rule target, .rule rule ∈ lines → rule.verdict = .goto target → target ∈ Script.declared lines ∧
    ∃ c ∈ g.connections, rule.chain = chainName c.output.node ∧ target = chainName c.input.node

theorem chainUse_of_laid {r : Registry} {p : Plan} {s : Settings} {files : FileTree} {ls : Entries String Listing}
    (complete : p.Complete) (wf : p.analysis.graph.WellFormed r) (laid : p.Laid s files ls) :
    p.analysis.graph.ChainUse p.order (p.scriptLines s ls).flatten := by
  have declared := laid.declared complete
  have follows := laid.follows complete ((complete.ids _).mpr wf.source) ((complete.ids _).mpr wf.localhost)
  constructor
  case declared => exact ⟨Plan.hooks ls, declared, fun hook => laid.mem_hooks_iff complete wf.toSound⟩
  case distinct => exact declared ▸ complete.declared_nodup ls
  case earlier =>
    intro before line after chain split extended
    rw [split] at follows
    exact follows.before extended
  case goto =>
    intro rule target stated goto
    obtain ⟨c, member, chain, rfl⟩ := laid.goto complete wf.toSound stated goto
    have listed : c.input.node ∈ p.order := (complete.ids _).mpr (wf.connections c member).input_mem
    exact ⟨declared ▸ List.mem_append_left _ (List.mem_map_of_mem listed), c, member, chain, rfl⟩

variable {r : Registry} {g : Graph} {s : Settings} {files : FileTree}

theorem compile_made (wf : g.WellFormed r) {a : Artifact} (compiled : g.compile s files = .ok a) :
    ∃ p, Plan.ofAnalysis g.analyze = .ok p ∧ p.analysis = g.analyze ∧ p.Complete ∧
      (p.emitAll s files p.marked).2 = none ∧ a = p.assembled s (p.emitAll s files p.marked).1 := by
  cases plan : Plan.ofAnalysis g.analyze with
  | error e =>
    rw [compile_of_no_plan plan] at compiled
    cases compiled
  | ok p =>
    obtain ⟨analysis, complete⟩ := Plan.complete_of_ok (normalize_well_formed wf) plan
    rw [compile_of_plan plan] at compiled
    cases emitted : (p.emitAll s files p.marked).2 with
    | some e =>
      rw [emitted] at compiled
      cases compiled
    | none =>
      rw [emitted] at compiled
      exact ⟨p, rfl, analysis, complete, emitted, Plan.artifact_ok compiled⟩

theorem exported_emission (wf : g.WellFormed r) {a : Artifact} (compiled : g.compile s files = .ok a) {n : Node}
    (present : n ∈ g.nodes) (exported : n.id ∈ a.order) (inner : isPermanentId n.id = false) :
    ∃ (p : Plan) (mark : Nat) (e : Emission), p.analysis = g.analyze ∧ p.Complete ∧ (p.emitAll s files p.marked).2 = none ∧
      a = p.assembled s (p.emitAll s files p.marked).1 ∧ e ∈ (p.emitAll s files p.marked).1 ∧ (n.id, mark) ∈ p.marked ∧
      p.emit s files mark n.id = .ok e ∧ e.node = n.id ∧ p.emitted s files mark n = .ok e.fragment := by
  obtain ⟨p, -, analysis, complete, emitted, rfl⟩ := compile_made wf compiled
  obtain ⟨mark, place⟩ := List.getElem?_of_mem exported
  have marked : (n.id, mark) ∈ p.marked := Plan.mem_marked.mpr ⟨place, inner⟩
  obtain ⟨e, member, done⟩ := (forall₂_partners (Plan.emitAll_made emitted)).1 _ marked
  obtain ⟨m, node, own, fragment, -⟩ := Plan.emit_made done
  obtain ⟨known, same⟩ := Graph.node?_mem node
  obtain rfl : m = n := by
    have first := wf.node?_of_mem (mem_analyze (analysis ▸ known))
    have second := wf.node?_of_mem present
    rw [same] at first
    exact Option.some.inj (first.symm.trans second)
  exact ⟨p, mark, e, analysis, complete, emitted, rfl, member, marked, done, own, fragment⟩

theorem compile_laid (wf : g.WellFormed r) (standard : ∀ n ∈ g.nodes, n.type.Standard) {a : Artifact}
    (compiled : g.compile s files = .ok a) : ∃ p ls, Plan.ofAnalysis g.analyze = .ok p ∧ p.Lists s files ls ∧
      p.order = a.order ∧ a.script = Script.written (p.scriptLines s ls) ∧
      g.normalize.graph.ChainUse a.order (p.scriptLines s ls).flatten := by
  obtain ⟨p, plan, analysis, complete, emitted, rfl⟩ := compile_made wf compiled
  have graph : p.analysis.graph = g.normalize.graph := congrArg Analysis.graph analysis
  have planned : p.analysis.graph.WellFormed r := graph ▸ normalize_well_formed wf
  have known : ∀ n ∈ p.analysis.graph.nodes, n.type.Standard := fun n member => standard n (mem_analyze (analysis ▸ member))
  obtain ⟨ls, all, keys, listed⟩ := Plan.emitAll_lists known emitted
  have lists : p.Lists s files ls := ⟨keys, listed⟩
  have laid := lists.laid complete planned.toSound
  rw [all]
  exact ⟨p, ls, plan, lists, rfl, laid.script_eq complete, graph ▸ chainUse_of_laid complete planned laid⟩

theorem not_blamed_of_standard {p : Plan} (standard : ∀ n ∈ p.analysis.graph.nodes, n.type.Standard) {mark : Nat} {id : String}
    {e : ExportError} (blames : p.Blames s files mark id e) (name owner : String) : e.cause ≠ .chainTaken name owner := by
  cases blames with
  | refused node raised =>
    intro same
    have own : e.cause.OfNode := (standard _ (node?_mem node).1).reports _ _ _ _ _ raised
    rw [same] at own
    exact own
  | raised => exact ExportCause.noConfusion
  | returned => exact ExportCause.noConfusion
  | flawed node made flawed =>
    cases flawed with
    | file => exact ExportCause.noConfusion
    | hook named first =>
      obtain ⟨stated, -, refused⟩ := List.exists_of_findSome?_eq_some first
      unfold Settings.hookProblem? at refused
      rintro rfl
      split at refused
      · cases refused
      · split at refused
        · cases refused
        · split at refused <;> cases refused

theorem chainTaken_iff (authored : Authored r g) (standard : ∀ n ∈ g.nodes, n.type.Standard) :
    (∃ e, g.compile s files = .error e ∧ ∃ name owner, e.cause = .chainTaken name owner) ↔
      ∃ a b, (g.Reaches sourceId a ∨ isPermanentId a = true) ∧ (g.Reaches sourceId b ∨ isPermanentId b = true) ∧ a ≠ b ∧
        underscored a = underscored b := by
  have differ : g.PortsDiffer := fun n member => (standard n member).singleEntry.differ
  obtain ⟨order, ordered, distinct, exported, known⟩ := authored.export_order differ
  have ends : ∀ {e}, g.compile s files = .error e ↔ g.CompileFails order s files e := compile_error_iff ordered known
  simp only [← exported, ← chainName_eq_iff]
  constructor
  · rintro ⟨e, failed, name, owner, cause⟩
    rcases ends.mp failed with ⟨rfl, -, earlier, same⟩ | ⟨-, ⟨place, inner, blames, -⟩⟩ | _
    · rename_i id owner before after
      refine ⟨owner, id, List.mem_append_left _ earlier, List.mem_append_right _ List.mem_cons_self, ?_, same⟩
      rintro rfl
      exact List.disjoint_of_nodup_append distinct earlier List.mem_cons_self
    · exact absurd cause (not_blamed_of_standard (fun n member => standard n (mem_analyze member)) blames name owner)
    · cases cause
  · rintro ⟨a, b, left, right, apart, same⟩
    have clash : ¬ (order.map chainName).Nodup :=
      fun names => apart (List.inj_on_of_nodup_map names left right same)
    obtain ⟨id, owner, taken⟩ := FirstTaken.exists clash
    exact ⟨_, ends.mpr (.taken taken), _, _, rfl⟩

/-- The chains of every script agree, and names of chains clash exactly where exported ids do. -/
theorem chains_agree (authored : Authored r g) (standard : ∀ n ∈ g.nodes, n.type.Standard) (s : Settings) (files : FileTree) :
    (∀ a, g.compile s files = .ok a → (∀ id, id ∈ a.order ↔ g.Reaches sourceId id ∨ isPermanentId id = true) ∧
      ∃ p ls, Plan.ofAnalysis g.analyze = .ok p ∧ p.Lists s files ls ∧ p.order = a.order ∧
        a.script = Script.written (p.scriptLines s ls) ∧
        g.normalize.graph.ChainUse a.order (p.scriptLines s ls).flatten) ∧
    ((∃ e, g.compile s files = .error e ∧ ∃ name owner, e.cause = .chainTaken name owner) ↔
      ∃ a b, (g.Reaches sourceId a ∨ isPermanentId a = true) ∧ (g.Reaches sourceId b ∨ isPermanentId b = true) ∧ a ≠ b ∧
        underscored a = underscored b) := by
  obtain ⟨-, wf⟩ := authored.well_formed
  refine ⟨fun a compiled => ?_, chainTaken_iff authored standard⟩
  obtain ⟨p, ls, plan, lists, same, written, chains⟩ := compile_laid wf standard compiled
  refine ⟨fun id => ?_, p, ls, plan, lists, same, written, chains⟩
  obtain ⟨analysis, complete⟩ := Plan.complete_of_ok (a := g.analyze) (normalize_well_formed wf) plan
  have graph : p.analysis.graph = g.normalize.graph := congrArg Analysis.graph analysis
  rw [← same, complete.ids, graph, mem_normalize_nodeIds wf]

theorem WellFormed.standard_builtin (wf : g.WellFormed .builtin) : ∀ n ∈ g.nodes, n.type.Standard := by
  intro n member
  obtain ⟨b, -, type⟩ := List.mem_map.mp (List.mem_of_find?_eq_some (wf.types n member))
  exact type ▸ .builtin b

def twins : Graph :=
  Graph.new.edits .builtin
    [.add "core:interface_filter" (some "lan-1") [("interface", .text "eth0")] (.list [.int 0, .int 0]),
      .add "core:drop" (some "lan_1") [] (.list [.int 0, .int 0]),
      .connect ⟨⟨sourceId, "out"⟩, ⟨"lan-1", "in"⟩⟩, .connect ⟨⟨"lan-1", "match"⟩, ⟨"lan_1", "in"⟩⟩]

theorem twins_clash :
    (∃ (a : Artifact) (p : Plan) (ls : Entries String Listing), gate.compile {} (.empty (Path.ofText "/")) = .ok a ∧
      a.script = Script.written (p.scriptLines {} ls) ∧
      gate.normalize.graph.ChainUse a.order (p.scriptLines {} ls).flatten) ∧
      ∃ e, twins.compile {} (.empty (Path.ofText "/")) = .error e ∧ ∃ name owner, e.cause = .chainTaken name owner := by
  have gated : Authored .builtin gate := .edits (.new .builtin) _
  have authored : Authored .builtin twins := .edits (.new .builtin) _
  constructor
  · obtain ⟨a, compiled⟩ := gate_compiled
    obtain ⟨-, p, ls, -, -, -, written, chains⟩ :=
      (chains_agree gated gated.well_formed.2.standard_builtin {} (.empty (Path.ofText "/"))).1 a compiled
    exact ⟨a, p, ls, compiled, written, chains⟩
  · refine (chains_agree authored authored.well_formed.2.standard_builtin {} (.empty (Path.ofText "/"))).2.mpr
      ⟨"lan-1", "lan_1", .inl ?_, .inl ?_, by decide, by decide +kernel⟩
    · exact .single ⟨⟨⟨sourceId, "out"⟩, ⟨"lan-1", "in"⟩⟩, by decide +kernel, rfl, rfl⟩
    · exact .tail (.single ⟨⟨⟨sourceId, "out"⟩, ⟨"lan-1", "in"⟩⟩, by decide +kernel, rfl, rfl⟩)
        ⟨⟨⟨"lan-1", "match"⟩, ⟨"lan_1", "in"⟩⟩, by decide +kernel, rfl, rfl⟩

end Graph

end FilterGraph
