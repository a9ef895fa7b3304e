import FilterGraph.Proofs.Export.Predicates
import FilterGraph.Proofs.Manifest.Reordering

namespace FilterGraph

section Types

variable {node : NodeView} {outgoing : List Connection} {site : Site} {l : Listing}

def NodeType.FilesDiffer (t : NodeType) : Prop :=
  ∀ node incoming outgoing site f, t.emit node incoming outgoing site = .ok f → (f.files.map (·.1)).Nodup

theorem Builtin.listing_files {b : Builtin} (listed : b.listing node outgoing site = .ok l) : (l.files.map (·.1)).Nodup := by
  cases b with
  | source | localhost =>
    cases listed
    exact List.nodup_nil
  | filter criterion =>
    obtain ⟨_, _, _, _, _, -, -, -, -, -, rfl⟩ := filterListing_iff.mp listed
    exact List.nodup_nil
  | addressList =>
    obtain ⟨_, _, _, _, _, _, _, -, -, -, -, -, -, -, rfl⟩ := addressListListing_parts listed
    exact List.nodup_singleton _
  | familySplitter =>
    obtain ⟨_, _, _, _, -, -, -, -, rfl⟩ := splitterListing_parts listed
    exact List.nodup_nil
  | nat side =>
    obtain ⟨_, _, _, _, _, -, -, -, -, -, rfl⟩ := natListing_parts listed
    exact List.nodup_nil
  | drop | accept =>
    obtain ⟨_, _, -, -, rfl⟩ := terminalListing_parts listed
    exact List.nodup_nil

theorem NodeSpec.listing_files {spec : NodeSpec} {typeId : String} (listed : spec.listing typeId node outgoing site = .ok l) :
    l.files.map (·.1) = spec.files.map (·.1) := by
  obtain ⟨chain, -, listed⟩ := bind_ok listed
  obtain ⟨values, -, listed⟩ := bind_ok listed
  obtain ⟨header, -, listed⟩ := bind_ok listed
  obtain ⟨setup, -, listed⟩ := bind_ok listed
  obtain ⟨rules, -, listed⟩ := bind_ok listed
  obtain ⟨files, filled, listed⟩ := bind_ok listed
  cases listed
  symm
  apply forall₂_map_eq (mapM_ok filled)
  rintro ⟨name, template⟩ file filled
  obtain ⟨content, -, filled⟩ := bind_ok filled
  cases filled
  rfl

theorem NodeType.Standard.filesDiffer {t : NodeType} (standard : t.Standard) : t.FilesDiffer := by
  intro node incoming outgoing site f emitted
  cases standard with
  | builtin b =>
    obtain ⟨l, listed, rfl⟩ := map_ok emitted
    exact Builtin.listing_files listed
  | manifest checked member =>
    obtain ⟨l, listed, rfl⟩ := map_ok emitted
    have names : l.fragment.files.map (·.1) = _ := NodeSpec.listing_files listed
    rw [names]
    exact ((Manifest.check_distinct checked).specs _ member).files

end Types

namespace Emission

variable {s : Settings} {es : List Emission}

theorem placedFiles_keys (e : Emission) :
    (e.placedFiles s).map (·.1) = (e.fragment.files.map (·.1)).map (s.dataFile e.node) := by
  simp only [placedFiles, List.map_map]
  rfl

theorem placedFiles_nodup (plain : ∀ e ∈ es, '/' ∉ e.node.toList) (nodes : (es.map (·.node)).Nodup)
    (names : ∀ e ∈ es, (e.fragment.files.map (·.1)).Nodup) : ((es.flatMap (placedFiles s)).map (·.1)).Nodup := by
  rw [List.map_flatMap, List.nodup_flatMap]
  constructor
  · intro e member
    rw [placedFiles_keys]
    refine (names e member).map_on fun name _ name' _ same => ?_
    exact (s.dataFile_inj (plain e member) (plain e member) same).2
  · refine (List.pairwise_map.mp nodes).imp_of_mem fun {d e} left right apart path here there => ?_
    have here : path ∈ (d.placedFiles s).map (·.1) := here
    have there : path ∈ (e.placedFiles s).map (·.1) := there
    rw [placedFiles_keys, List.mem_map] at here there
    obtain ⟨name, -, rfl⟩ := here
    obtain ⟨name', -, same⟩ := there
    exact apart (s.dataFile_inj (plain e right) (plain d left) same).1.symm

theorem files_perm (apart : ((es.flatMap (placedFiles s)).map (·.1)).Nodup) :
    (files s es).Perm (es.flatMap (placedFiles s)) := by
  refine (List.mergeSort_perm _ _).trans (.of_eq (Entries.foldl_setBy ?_))
  rw [List.nil_append]
  exact (List.pairwise_map.mp apart).imp fun differ => beq_false_of_ne differ

theorem files_sorted (s : Settings) (es : List Emission) : ((files s es).map (·.1)).Pairwise (· < ·) := by
  have set := Entries.keys_foldl_set (es.flatMap (placedFiles s)) [] List.nodup_nil
  have apart : ((files s es).map (·.1)).Nodup := ((List.mergeSort_perm _ _).map _).nodup_iff.mpr set
  have sorted : (files s es).Pairwise fun f h => f.1 ≤ h.1 :=
    pairwise_mergeSort (fun _ _ => decide_eq_true_iff) _
  exact (List.pairwise_map.mpr sorted).imp₂ (fun _ _ below differ => lt_of_le_of_ne below differ) apart

end Emission

theorem Plan.marked_ids (p : Plan) : p.marked.map (·.1) = p.order.filter fun id => !isPermanentId id := by
  have ids : p.order.zipIdx.map (·.1) = p.order := List.zipIdx_map_fst 0 p.order
  conv_rhs => rw [← ids, List.filter_map]
  rfl

namespace Graph

variable {r : Registry} {g : Graph} {s : Settings} {files : FileTree} {a : Artifact}

/-- The exported nodes but the permanent ones, each with the fragment that its type gives for it in its place. -/
structure Emissions (g : Graph) (s : Settings) (files : FileTree) (order : List String) (es : List Emission) : Prop where
  nodes : es.map (·.node) = order.filter fun id => !isPermanentId id
  fragments : ∀ e ∈ es, ∃ n ∈ g.nodes, n.id = e.node ∧ ∃ mark, order[mark]? = some e.node ∧
    (g.planned order).emitted s files mark n = .ok e.fragment

theorem compile_emissions (wf : g.WellFormed r) (compiled : g.compile s files = .ok a) : a.order.Nodup ∧
    (∀ id, id ∈ a.order ↔ id ∈ g.normalize.graph.nodeIds) ∧ ∃ es, g.Emissions s files a.order es ∧
      a.files = Emission.files s es := by
  obtain ⟨p, plan, analysis, complete, emitted, rfl⟩ := compile_made wf compiled
  have planned : g.planned p.order = p := by
    rw [planned, ← analysis]
    exact congrArg (Plan.mk p.analysis p.order) complete.chains.symm
  have made := Plan.emitAll_made emitted
  refine ⟨complete.order_nodup, fun id => ?_, (p.emitAll s files p.marked).1, ⟨?_, fun e member => ?_⟩, rfl⟩
  · have ids := complete.ids id
    rwa [analysis] at ids
  · show _ = p.order.filter fun id => !isPermanentId id
    rw [← p.marked_ids]
    symm
    apply forall₂_map_eq made
    intro node e done
    obtain ⟨n, -, own, -⟩ := Plan.emit_made done
    exact own.symm
  · obtain ⟨⟨id, mark⟩, marked, done⟩ := (forall₂_partners made).2 e member
    obtain ⟨n, node, own, fragment, -⟩ := Plan.emit_made done
    obtain ⟨known, same⟩ := Graph.node?_mem node
    refine ⟨n, mem_analyze (analysis ▸ known), same.trans own.symm, mark, ?_, ?_⟩
    · exact own ▸ (Plan.mem_marked.mp marked).1
    · change (g.planned p.order).emitted s files mark n = _
      rw [planned, fragment]

/-- An export has one data file for each exported node and each name that its fragment has a file for, with the content of that
    file, in the folder of the node; the paths are sorted, and a path tells the node and the name. -/
theorem data_files_apart (authored : Authored r g) (differ : ∀ n ∈ g.nodes, n.type.FilesDiffer)
    (compiled : g.compile s files = .ok a) : a.order.Nodup ∧ (∀ id, id ∈ a.order ↔ id ∈ g.normalize.graph.nodeIds) ∧
      ∃ es, g.Emissions s files a.order es ∧
        a.files.Perm (es.flatMap fun e => e.fragment.files.map fun (name, content) => (s.dataFile e.node name, content)) ∧
        (a.files.map (·.1)).Pairwise (· < ·) ∧
        ∀ d ∈ es, ∀ e ∈ es, ∀ name name', s.dataFile d.node name = s.dataFile e.node name' → d = e ∧ name = name' := by
  obtain ⟨distinct, ids, es, emissions, placed⟩ := compile_emissions authored.well_formed.2 compiled
  have plain : ∀ e ∈ es, '/' ∉ e.node.toList := by
    intro e member
    obtain ⟨n, present, own, -⟩ := emissions.fragments e member
    exact (isName_of_givenId (own ▸ authored.given n present)).2.1
  have nodes : (es.map (·.node)).Nodup := emissions.nodes ▸ distinct.filter _
  have names : ∀ e ∈ es, (e.fragment.files.map (·.1)).Nodup := by
    intro e member
    obtain ⟨n, present, -, mark, -, emitted⟩ := emissions.fragments e member
    exact differ n present _ _ _ _ _ emitted
  refine ⟨distinct, ids, es, emissions, ?_, ?_, fun d left e right name name' same => ?_⟩
  · rw [placed]
    exact Emission.files_perm (Emission.placedFiles_nodup plain nodes names)
  · rw [placed]
    exact Emission.files_sorted s es
  · obtain ⟨node, name⟩ := s.dataFile_inj (plain d left) (plain e right) same
    exact ⟨List.inj_on_of_nodup_map nodes left right node, name⟩

theorem among_data_files : ∃ a left right, among.compile {} listFiles = .ok a ∧ ("data/from/addresses.txt", left) ∈ a.files ∧
    ("data/to/addresses.txt", right) ∈ a.files ∧ (a.files.map (·.1)).Pairwise (· < ·) := by
  obtain ⟨a, compiled, first, second⟩ := among_compiled
  have authored : Authored .builtin among := .edits (.new .builtin) _
  have standard := authored.well_formed.2.standard_builtin
  obtain ⟨-, -, es, emissions, perm, sorted, -⟩ :=
    data_files_apart authored (fun n present => (standard n present).filesDiffer) compiled
  have placed : ∀ id ∈ a.order, isPermanentId id = false → ∃ content,
      (Settings.dataFile {} id "addresses.txt", content) ∈ a.files := by
    intro id exported inner
    have node : id ∈ es.map (·.node) := emissions.nodes ▸ List.mem_filter.mpr ⟨exported, by rw [inner]; rfl⟩
    obtain ⟨e, member, rfl⟩ := List.mem_map.mp node
    obtain ⟨n, present, own, mark, -, emitted⟩ := emissions.fragments e member
    have type : n.type = Builtin.addressList.nodeType := by
      rw [among_nodes] at present
      simp only [List.mem_cons, List.not_mem_nil, or_false] at present
      rcases present with rfl | rfl | rfl | rfl
      · exact absurd (own ▸ inner) (by decide)
      · exact absurd (own ▸ inner) (by decide)
      · rfl
      · rfl
    rw [Plan.emitted, type] at emitted
    obtain ⟨l, listed, fragment⟩ := map_ok emitted
    obtain ⟨_, _, _, _, _, _, list, -, -, -, -, -, -, -, rfl⟩ := Builtin.addressListListing_parts listed
    refine ⟨list.content, perm.symm.subset (List.mem_flatMap.mpr ⟨e, member, ?_⟩)⟩
    rw [← fragment]
    exact List.mem_cons_self
  obtain ⟨left, there⟩ := placed "from" first (by decide)
  obtain ⟨right, here⟩ := placed "to" second (by decide)
  exact ⟨a, left, right, compiled, there, here, sorted⟩

end Graph

end FilterGraph
