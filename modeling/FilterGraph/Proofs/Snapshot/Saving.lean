import FilterGraph.Proofs.Graph.Naming
import FilterGraph.Proofs.Snapshot.Acceptance

namespace FilterGraph

theorem Snapshot.read_metadata {v : Value} {s : Snapshot} (fields : read v = .ok s) : (s.metadata.map (·.1)).Nodup := by
  obtain ⟨entries, reading⟩ := Checked.record_ok fields
  obtain ⟨metadata, withExtensions, metadataRead, extensionsRead, rfl⟩ := Checked.apply_ok (Checked.andAlso_ok reading)
  obtain ⟨extensions, withConnections, -, connectionsRead, rfl⟩ := Checked.apply_ok extensionsRead
  obtain ⟨connections, withNodes, -, nodesRead, rfl⟩ := Checked.apply_ok connectionsRead
  obtain ⟨nodes, withVersion, -, versionRead, rfl⟩ := Checked.apply_ok nodesRead
  obtain ⟨version, make, -, start, rfl⟩ := Checked.apply_ok versionRead
  cases start
  rcases Checked.defaulted_ok metadataRead with ⟨data, found⟩ | rfl
  · exact (Checked.dict_ok found).1
  · exact List.nodup_nil

theorem Node.toDocument_eq (n : Node) : n.toDocument =
    if isNodeId n.id.toList then .ok n.saved else .error [⟨.stringPattern, [.field "id"]⟩] := by
  by_cases named : isNodeId n.id.toList = true
  · rw [if_pos named, toDocument, Checked.matching_text named]
    rfl
  · have refused : Checked.matching isNodeId (.text n.id) = .error [⟨.stringPattern, []⟩] := by
      simp only [Checked.matching, Value.text, Checked.string, Bind.bind, Except.bind, named]
      rfl
    rw [if_neg named, toDocument, refused]
    rfl

def Edit.IsJson : Edit → Prop
  | .add _ _ params _ => params.IsJson
  | _ => True

namespace Graph

section WellFormed

variable {r : Registry} {g : Graph}

theorem mapM_toDocument (nodes : List Node) : nodes.mapM Node.toDocument =
    if ∀ n ∈ nodes, isNodeId n.id.toList = true then .ok (nodes.map Node.saved)
    else .error [⟨.stringPattern, [.field "id"]⟩] := by
  induction nodes with
  | nil => rfl
  | cons n rest ih =>
    rw [List.mapM_cons, ih, n.toDocument_eq]
    simp only [List.forall_mem_cons]
    exact bind_guarded n.saved (rest.map Node.saved) _ List.cons

/-- A well-formed graph is saved as it is when its ids are those of a document, and else its ids are to blame. -/
theorem WellFormed.toSnapshot_eq (wf : g.WellFormed r) {metadata : Params}
    (read : Checked.dict .ok g.metadata = .ok metadata) : g.toSnapshot =
      if ∀ n ∈ g.nodes, isNodeId n.id.toList = true then
        .ok { nodes := g.nodes.map Node.saved, connections := g.connections, extensions := g.extensionIds, metadata }
      else .error [⟨.stringPattern, [.field "id"]⟩] := by
  let s : Snapshot :=
    { nodes := g.nodes.map Node.saved, connections := g.connections, extensions := g.extensionIds, metadata }
  have references : s.problem? = none := (wf.document (s := s) rfl rfl).references
  rw [toSnapshot, mapM_toDocument, read]
  split
  · have ensured : Checked.ensure Snapshot.problem? s = .ok s := by rw [Checked.ensure, references]
    exact ensured
  · rfl

end WellFormed

section Extensions

theorem mem_extensions_insert {g : Graph} {n : Node} {id : String} :
    id ∈ (g.insert n).extensions ↔ id ∈ g.extensions ∨ n.type.extension? = some id := by
  cases brought : n.type.extension? with
  | none => simp [insert, brought]
  | some other =>
    by_cases listed : other ∈ g.extensions
    · have kept : (g.insert n).extensions = g.extensions := by simp [insert, brought, listed]
      rw [kept, Option.some.injEq]
      exact ⟨Or.inl, fun known => known.elim (fun old => old) fun same => same ▸ listed⟩
    · simp [insert, brought, listed, eq_comm]

variable {r : Registry} {g : Graph}

theorem addDocumented_extensions {nodes : List SnapshotNode} {next : Graph}
    (added : nodes.foldlM (addDocumented r) g = .ok next) (id : String) : id ∈ next.extensions ↔
      id ∈ g.extensions ∨ ∃ n ∈ nodes, ∃ type, r.get? n.typeId = some type ∧ type.extension? = some id := by
  induction nodes generalizing g with
  | nil =>
    cases added
    simp
  | cons n rest ih =>
    rw [List.foldlM_cons] at added
    obtain ⟨h, first, later⟩ := bind_ok added
    obtain ⟨-, type, known, rfl⟩ := addDocumented_ok first
    rw [ih later, mem_extensions_insert]
    simp only [List.exists_mem_cons_iff, known, Option.some.injEq, exists_eq_left', or_assoc]

theorem connectDocumented_keeps {connections : List Connection} {next : Graph}
    (made : connections.foldlM connectDocumented g = .ok next) :
    next.extensions = g.extensions ∧ next.metadata = g.metadata := by
  have step : ∀ c (h last : Graph), h.extensions = g.extensions ∧ h.metadata = g.metadata →
      connectDocumented h c = .ok last → last.extensions = g.extensions ∧ last.metadata = g.metadata := by
    intro c h last kept connected
    obtain ⟨-, -, rfl⟩ := connect_ok.mp (connectDocumented_ok connected)
    exact kept
  exact foldlM_keeps step ⟨rfl, rfl⟩ made

end Extensions

section Opened

variable {r : Registry} {loader? : Option Loader} {t : FileTree} {v : Value} {s : Snapshot} {g : Graph}

theorem ofSnapshot_extensions (opening : ofSnapshot r s = .ok g) (id : String) : id ∈ g.extensions ↔
    id ∈ s.extensions ∨ ∃ n ∈ s.nodes, ∃ type, r.get? n.typeId = some type ∧ type.extension? = some id := by
  obtain ⟨filled, added, made⟩ := bind_ok opening
  split at made
  · rw [(connectDocumented_keeps made).1, addDocumented_extensions added, List.mem_eraseDups]
  · cases made

theorem addDocumented_metadata {nodes : List SnapshotNode} {next : Graph}
    (added : nodes.foldlM (addDocumented r) g = .ok next) : next.metadata = g.metadata := by
  have step : ∀ n (h last : Graph), h.metadata = g.metadata → addDocumented r h n = .ok last →
      last.metadata = g.metadata := by
    intro n h last kept put
    obtain ⟨-, type, -, rfl⟩ := addDocumented_ok put
    exact kept
  exact foldlM_keeps step rfl added

theorem ofSnapshot_metadata (opening : ofSnapshot r s = .ok g) : g.metadata = .record s.metadata := by
  obtain ⟨filled, added, made⟩ := bind_ok opening
  split at made
  · rw [(connectDocumented_keeps made).2, addDocumented_metadata added]
  · cases made

/-- What a checked document says is saved again once it is opened: nodes, connections and metadata as they are, and of
    the extensions those it declares and those its types come from, in order and each once. -/
theorem opened_document_saved (checked : Snapshot.check v = .ok s)
    (opening : (openSnapshot r loader? t s).outcome = .ok g) :
    ((∀ id ∈ s.extensions, r.hasExtension id = true) → (openSnapshot r loader? t s).registry = r) ∧
      ∃ saved, g.toSnapshot = .ok saved ∧ saved.nodes = s.nodes ∧ saved.connections = s.connections ∧
        saved.metadata = s.metadata ∧ saved.extensions.Pairwise (· < ·) ∧
          ∀ id, id ∈ saved.extensions ↔ id ∈ s.extensions ∨
            ∃ n ∈ s.nodes, ∃ type, (openSnapshot r loader? t s).registry.get? n.typeId = some type ∧
              type.extension? = some id := by
  have valid := Snapshot.check_valid checked
  obtain ⟨read, reading, ensured⟩ := bind_ok checked
  obtain ⟨rfl, -⟩ := Checked.ensure_ok ensured
  obtain ⟨required, made⟩ := openSnapshot_ok opening
  obtain ⟨nodes, connections⟩ := ofSnapshot_contents made
  have named : ∀ n ∈ g.nodes, isNodeId n.id.toList = true := fun n member =>
    valid.ids n.saved (nodes ▸ List.mem_map_of_mem member)
  have metadata : Checked.dict .ok g.metadata = .ok s.metadata := by
    rw [ofSnapshot_metadata made]
    exact Checked.dict_record (Snapshot.read_metadata reading)
  have saved := (ofSnapshot_well_formed valid made).toSnapshot_eq metadata
  rw [if_pos named] at saved
  have distinct : g.extensions.Nodup := (Declares.opened (Registry.require_hasExtension required).1 made).distinct
  refine ⟨fun loaded => ?_, _, saved, nodes, connections, rfl, sort_strict distinct, fun id => ?_⟩
  · have nothing : r.require loader? t s.extensions = { registry := r } := Registry.require_eq loaded
    simp only [openSnapshot, nothing]
  · rw [extensionIds, (List.mergeSort_perm _ _).mem_iff, ofSnapshot_extensions made]

end Opened

def apart : Snapshot :=
  { labSnapshot [⟨⟨sourceId, "out"⟩, ⟨localhostId, "in"⟩⟩] with
    extensions := [], metadata := [("zoom", .list [.int 2, .null])] }

def apartDocument : Value :=
  .record [("nodes", .list (apart.nodes.map fun n => .record [("id", .text n.id), ("type", .text n.typeId)])),
    ("connections", .list (apart.connections.map Connection.toValue)), ("metadata", .record apart.metadata)]

theorem apart_saved : ∃ g saved, (openValue equipped none (.empty (Path.ofText "/")) apartDocument).outcome = .ok g ∧
    g.toSnapshot = .ok saved ∧ saved.nodes = apart.nodes ∧ saved.connections = apart.connections ∧
      saved.metadata = apart.metadata ∧ "lab" ∈ saved.extensions ∧ apart.extensions = [] := by
  have checked : Snapshot.check apartDocument = .ok apart := by rfl
  obtain ⟨g, opening⟩ : ∃ g, (openSnapshot equipped none (.empty (Path.ofText "/")) apart).outcome = .ok g :=
    ⟨_, by rfl⟩
  obtain ⟨registry, saved, written, nodes, connections, metadata, -, extensions⟩ := opened_document_saved checked opening
  have opened : (openValue equipped none (.empty (Path.ofText "/")) apartDocument).outcome = .ok g := by
    simp only [openValue, checked, opening]
  have loaded := registry fun id member => absurd member List.not_mem_nil
  have brought : "lab" ∈ saved.extensions := by
    refine (extensions "lab").mpr (Or.inr ⟨{ id := "sink", typeId := "lab:sink" }, ?_, ?_⟩)
    · exact .tail _ (.tail _ (.head _))
    · rw [loaded]
      exact ⟨_, rfl, rfl⟩
  exact ⟨g, saved, opened, written, nodes, connections, metadata, brought, rfl⟩

section Built

variable {r : Registry}

theorem Change.metadata {g next : Graph} (change : Change r g next) : next.metadata = g.metadata := by
  cases change <;> rfl

theorem edits_metadata (g : Graph) (es : List Edit) : (g.edits r es).metadata = g.metadata := by
  induction es generalizing g with
  | nil => rfl
  | cons e rest ih => exact (ih (g.edit r e).1).trans (edit_change r g e).metadata

theorem edits_params {g : Graph} {es : List Edit} (start : ∀ n ∈ g.nodes, n.params.IsJson)
    (json : ∀ e ∈ es, e.IsJson) : ∀ n ∈ (g.edits r es).nodes, n.params.IsJson := by
  induction es generalizing g with
  | nil => exact start
  | cons e rest ih =>
    obtain ⟨here, others⟩ := List.forall_mem_cons.mp json
    refine ih (fun n member => ?_) others
    rcases mem_edited member with old | new
    · exact start n old
    · cases e with
      | add typeId id? params position => exact new.1 ▸ here
      | _ => exact new.elim

theorem new_params : ∀ n ∈ Graph.new.nodes, n.params = [] := by
  have params : ∀ params ∈ Graph.new.nodes.map (·.params), params = [] := by
    have both : Graph.new.nodes.map (·.params) = [[], []] := rfl
    simp [both]
  exact fun n member => params n.params (List.mem_map_of_mem member)

/-- A graph that edits with JSON parameters make of the new one has a snapshot exactly when no id ends with a line feed,
    and else the id is to blame. The snapshot's document is read as the snapshot. -/
theorem edited_graph_saves_iff (built : r.Built) {es : List Edit} (json : ∀ e ∈ es, e.IsJson) :
    ((∃ s, (Graph.new.edits r es).toSnapshot = .ok s) ↔
      ∀ id ∈ (Graph.new.edits r es).nodeIds, id.toList.getLast? ≠ some '\n') ∧
    (∀ issues, (Graph.new.edits r es).toSnapshot = .error issues → issues = [⟨.stringPattern, [.field "id"]⟩]) ∧
      ∀ s, (Graph.new.edits r es).toSnapshot = .ok s →
        (s.toValue = if s.Shallow then .ok s.document else .error .tooDeep) ∧ Snapshot.check s.document = .ok s := by
  have authored : Authored r (Graph.new.edits r es) := .edits (.new built) es
  have metadata : (Graph.new.edits r es).metadata = .map [] := Graph.new.edits_metadata es
  have params : ∀ n ∈ (Graph.new.edits r es).nodes, n.params.IsJson :=
    edits_params (fun n member => new_params n member ▸ .nil) json
  have data : (Graph.new.edits r es).IsJson := ⟨params, metadata ▸ ⟨List.nodup_nil, trivial⟩⟩
  have read : Checked.dict .ok (Graph.new.edits r es).metadata = .ok [] := by
    rw [metadata]
    rfl
  have saved := authored.well_formed.2.toSnapshot_eq read
  refine ⟨?_, fun issues refused => ?_, fun s written => ?_⟩
  · have named : (∀ n ∈ (Graph.new.edits r es).nodes, isNodeId n.id.toList = true) ↔
        ∀ n ∈ (Graph.new.edits r es).nodes, n.id.toList.getLast? ≠ some '\n' :=
      forall₂_congr fun n member => isNodeId_iff (authored.given n member)
    rw [saved, nodeIds, List.forall_mem_map, ← named]
    split
    · rename_i fine
      exact iff_of_true ⟨_, rfl⟩ fine
    · rename_i bad
      refine iff_of_false ?_ bad
      rintro ⟨s, done⟩
      cases done
  · rw [saved] at refused
    split at refused <;> cases refused
    rfl
  · have plain := toSnapshot_json data written
    obtain ⟨metadata, -, valid, same⟩ := toSnapshot_ok written
    refine ⟨Snapshot.toValue_json plain, ?_⟩
    rw [Snapshot.check_document valid plain, same, extensionIds_sorted]

theorem line_feed_not_saved :
    let named (id : String) := Graph.new.edits .builtin
      [.add "core:drop" (some id) [("label", .text "the end")] (.list [.int 0, .int 0])]
    (named "a\n").nodeIds = [sourceId, localhostId, "a\n"] ∧ ¬ (∃ s, (named "a\n").toSnapshot = .ok s) ∧
      ∃ s, (named "a").toSnapshot = .ok s := by
  intro named
  have json (id : String) : ∀ e ∈ [Edit.add "core:drop" (some id) [("label", .text "the end")] (.list [.int 0, .int 0])],
      e.IsJson := List.forall_mem_singleton.mpr ⟨by decide, List.forall_mem_singleton.mpr trivial⟩
  have broken : (named "a\n").nodeIds = [sourceId, localhostId, "a\n"] := by rfl
  have whole : (named "a").nodeIds = [sourceId, localhostId, "a"] := by rfl
  refine ⟨broken, fun saved => ?_, (edited_graph_saves_iff .builtin (json "a")).1.mpr ?_⟩
  · have last := (edited_graph_saves_iff .builtin (json "a\n")).1.mp saved "a\n" (by rw [broken]; simp)
    exact absurd last (by decide)
  · rw [whole]
    decide

end Built

end Graph
end FilterGraph
