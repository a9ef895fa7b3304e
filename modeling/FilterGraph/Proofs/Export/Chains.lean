import FilterGraph.Proofs.Export.Script

namespace FilterGraph

namespace Script

theorem preamble_rules (s : Settings) (g : Graph) (chains : Entries String String) :
    (preamble s g chains).filterMap ScriptLine.rule? = (g.outgoing sourceId).map fun c =>
      ⟨chainName sourceId, .always, .goto ((chains.get? c.input.node).getD "")⟩ := by
  have added : (chains.map fun e => ScriptLine.addChain e.2
      (if e.1 == sourceId then some s.baseChain else none)).filterMap ScriptLine.rule? = [] := by
    rw [List.filterMap_map]
    exact List.filterMap_eq_nil_iff.mpr fun _ _ => rfl
  have frame : (opening s).filterMap ScriptLine.rule? = [] := rfl
  have sent := ScriptLine.filterMap_rule? ((g.outgoing sourceId).map fun c =>
    (⟨chainName sourceId, .always, .goto ((chains.get? c.input.node).getD "")⟩ : Rule))
  rw [List.map_map] at sent
  rw [preamble, List.filterMap_append, List.filterMap_append, frame, added]
  exact sent

theorem natChain_rules (hook : String) (statements : List String) :
    (natChain hook statements).filterMap ScriptLine.rule? = [] := by
  unfold natChain
  cases Side.ofHook? hook with
  | none => rfl
  | some side =>
    refine List.filterMap_eq_nil_iff.mpr fun line member => ?_
    rcases List.mem_cons.mp member with rfl | stated
    · rfl
    · obtain ⟨statement, -, rfl⟩ := List.mem_map.mp stated
      rfl

theorem natLines_rules (nat : Entries String (List String)) : (natLines nat).filterMap ScriptLine.rule? = [] := by
  refine List.filterMap_eq_nil_iff.mpr fun line member => ?_
  rcases List.mem_cons.mp member with rfl | stated
  · rfl
  · obtain ⟨entry, -, inside⟩ := List.mem_flatMap.mp stated
    exact List.filterMap_eq_nil_iff.mp (natChain_rules entry.1 entry.2) line inside

end Script

namespace Plan

variable {p : Plan} {kind : String → Kind} {s : Settings} {files : FileTree} {ls : Entries String Listing}

theorem rules_eq (p : Plan) (s : Settings) (ls : Entries String Listing) :
    Script.rules (p.scriptLines s ls) =
      ((p.analysis.graph.outgoing sourceId).map fun c =>
        ⟨chainName sourceId, .always, .goto ((p.chains.get? c.input.node).getD "")⟩) ++
      (ls.flatMap fun e => e.2.rules) ++ [⟨chainName localhostId, .always, .accept⟩] := by
  have nodes : (ls.map fun e => e.2.lines).flatten.filterMap ScriptLine.rule? = ls.flatMap fun e => e.2.rules := by
    rw [List.filterMap_flatten, List.map_map]
    rfl
  have nat : (if (Emission.statements (emissions ls)).isEmpty then []
      else [Script.natLines (Emission.statements (emissions ls))]).flatten.filterMap ScriptLine.rule? = [] := by
    split
    · rfl
    · rw [List.flatten_singleton, Script.natLines_rules]
  simp only [Script.rules, scriptLines, List.flatten_append, List.flatten_cons, List.flatten_nil,
    List.cons_append, List.filterMap_append, nodes, nat, Script.preamble_rules, List.append_nil]
  rw [List.append_assoc]
  rfl

theorem Complete.filter_chain (complete : p.Complete) {a id : String} (left : a ∈ p.order) (right : id ∈ p.order)
    {rules : List Rule} (chains : ∀ rule ∈ rules, rule.chain = chainName a) :
    rules.filter (·.chain == chainName id) = if a = id then rules else [] := by
  split
  · rename_i same
    subst same
    exact List.filter_eq_self.mpr fun rule member => beq_iff_eq.mpr (chains rule member)
  · rename_i apart
    refine List.filter_eq_nil_iff.mpr fun rule member same => apart ?_
    -- two nodes never share a chain, since a plan with a name twice is refused
    exact complete.chain_injective left right ((chains rule member).symm.trans (eq_of_beq same))

theorem Listed.mem_order (listed : p.Listed kind s files ls) {e : String × Listing} (member : e ∈ ls) :
    e.1 ∈ p.order ∧ isPermanentId e.1 = false := by
  obtain ⟨n, mark, -, marked, -⟩ := listed.entries e member
  obtain ⟨place, inner⟩ := mem_marked.mp marked
  exact ⟨List.mem_of_getElem? place, inner⟩

theorem Listed.listed_of_mem (listed : p.Listed kind s files ls) {id : String} (member : id ∈ p.order)
    (inner : isPermanentId id = false) : ∃ e ∈ ls, e.1 = id := by
  obtain ⟨mark, place⟩ := List.getElem?_of_mem member
  have marked : id ∈ ls.map (·.1) := by
    rw [listed.keys]
    exact List.mem_map_of_mem (mem_marked.mpr ⟨place, inner⟩)
  exact List.mem_map.mp marked

theorem Listed.rule_chain (listed : p.Listed kind s files ls) {e : String × Listing} (member : e ∈ ls) :
    ∀ rule ∈ e.2.rules, rule.chain = chainName e.1 := by
  obtain ⟨n, mark, found, -, -, realized⟩ := listed.entries e member
  obtain ⟨-, same⟩ := Graph.node?_mem found
  intro rule stated
  rw [realized.chains rule stated]
  exact congrArg chainName same

theorem Listed.filter_others (complete : p.Complete) (listed : p.Listed kind s files ls) {id : String}
    (right : id ∈ p.order) {others : Entries String Listing} (part : others ⊆ ls)
    (apart : id ∉ others.map (·.1)) : (others.flatMap fun e => e.2.rules).filter (·.chain == chainName id) = [] := by
  refine List.filter_eq_nil_iff.mpr fun rule member => ?_
  obtain ⟨e, present, stated⟩ := List.mem_flatMap.mp member
  have nothing := complete.filter_chain (listed.mem_order (part present)).1 right (listed.rule_chain (part present))
  have other : e.1 ≠ id := fun same => apart (same ▸ List.mem_map_of_mem present)
  rw [if_neg other] at nothing
  exact List.filter_eq_nil_iff.mp nothing rule stated

theorem Complete.filter_rules (complete : p.Complete) (source : sourceId ∈ p.order) (localhost : localhostId ∈ p.order)
    (s : Settings) (ls : Entries String Listing) {id : String} (right : id ∈ p.order) :
    (Script.rules (p.scriptLines s ls)).filter (·.chain == chainName id) =
      (if sourceId = id then (p.analysis.graph.outgoing sourceId).map fun c =>
        ⟨chainName sourceId, .always, .goto ((p.chains.get? c.input.node).getD "")⟩ else []) ++
      (ls.flatMap fun e => e.2.rules).filter (·.chain == chainName id) ++
      (if localhostId = id then [⟨chainName localhostId, .always, .accept⟩] else []) := by
  have base := complete.filter_chain source right (fun rule member => by
    obtain ⟨c, -, rfl⟩ := List.mem_map.mp member
    rfl : ∀ rule ∈ (p.analysis.graph.outgoing sourceId).map fun c =>
      (⟨chainName sourceId, .always, .goto ((p.chains.get? c.input.node).getD "")⟩ : Rule), _)
  have last := complete.filter_chain localhost right (fun rule member => by rw [List.mem_singleton.mp member] :
    ∀ rule ∈ [(⟨chainName localhostId, .always, .accept⟩ : Rule)], _)
  rw [rules_eq, List.filter_append, List.filter_append, base, last]

theorem Listed.permanent_apart (listed : p.Listed kind s files ls) {id : String}
    (permanent : isPermanentId id = true) : id ∉ ls.map (·.1) := by
  intro member
  obtain ⟨e, present, rfl⟩ := List.mem_map.mp member
  exact absurd permanent (Bool.not_eq_true _ ▸ (listed.mem_order present).2)

section Chains

variable (complete : p.Complete) (listed : p.Listed kind s files ls) (source : sourceId ∈ p.order)
  (localhost : localhostId ∈ p.order)

include complete listed source localhost

theorem Listed.node_rules {e : String × Listing} (member : e ∈ ls) :
    (Script.rules (p.scriptLines s ls)).filter (·.chain == chainName e.1) = e.2.rules := by
  obtain ⟨right, inner⟩ := listed.mem_order member
  obtain ⟨notSource, notLocalhost⟩ := Bool.or_eq_false_iff.mp inner
  rw [complete.filter_rules source localhost s ls right, if_neg (ne_of_beq_false notSource).symm,
    if_neg (ne_of_beq_false notLocalhost).symm, List.nil_append, List.append_nil]
  obtain ⟨before, after, rfl⟩ := List.append_of_mem member
  have distinct : ((before ++ e :: after).map (·.1)).Nodup := listed.keys ▸ complete.marked_nodup
  rw [List.map_append, List.map_cons, List.nodup_middle, List.nodup_cons, List.mem_append, not_or] at distinct
  have own := complete.filter_chain right right (listed.rule_chain member)
  have first := listed.filter_others complete right (List.subset_append_left _ _) distinct.1.1
  have last := listed.filter_others complete right
    (fun _ present => List.mem_append_right _ (List.mem_cons_of_mem _ present)) distinct.1.2
  rw [List.flatMap_append, List.flatMap_cons, List.filter_append, List.filter_append, first, last, own, if_pos rfl,
    List.nil_append, List.append_nil]

theorem Listed.source_rules :
    (Script.rules (p.scriptLines s ls)).filter (·.chain == chainName sourceId) =
      (p.analysis.graph.outgoing sourceId).map fun c =>
        ⟨chainName sourceId, .always, .goto ((p.chains.get? c.input.node).getD "")⟩ := by
  rw [complete.filter_rules source localhost s ls source, if_pos rfl, if_neg (by decide),
    listed.filter_others complete source (List.Subset.refl _) (listed.permanent_apart rfl),
    List.append_nil, List.append_nil]

theorem Listed.localhost_rules :
    (Script.rules (p.scriptLines s ls)).filter (·.chain == chainName localhostId) =
      [⟨chainName localhostId, .always, .accept⟩] := by
  rw [complete.filter_rules source localhost s ls localhost, if_neg (by decide), if_pos rfl,
    listed.filter_others complete localhost (List.Subset.refl _) (listed.permanent_apart rfl),
    List.append_nil, List.nil_append]

end Chains

end Plan
end FilterGraph
