import FilterGraph.Proofs.Graph.Extensions
import FilterGraph.Proofs.Registry.Integrity
import FilterGraph.Proofs.Snapshot.Reading

namespace FilterGraph

def Node.saved (n : Node) : SnapshotNode :=
  { id := n.id, typeId := n.type.typeId, params := n.params, position := n.position }

theorem Node.toDocument_ok {n : Node} {d : SnapshotNode} (written : n.toDocument = .ok d) :
    d = n.saved ∧ isNodeId n.id.toList = true := by
  obtain ⟨id, named, written⟩ := bind_ok written
  cases written
  have matched := Checked.under_ok named
  obtain ⟨s, same, matched⟩ := bind_ok matched
  cases same
  split at matched
  · rename_i fine
    cases matched
    exact ⟨rfl, fine⟩
  · cases matched

theorem Value.HoldJson.keyed {entries : List (Scalar × Value)} (json : HoldJson entries) :
    ∃ params : Params, entries = params.keyed ∧ ∀ e ∈ params, e.2.IsJson := by
  induction entries with
  | nil => exact ⟨[], rfl, fun e member => absurd member List.not_mem_nil⟩
  | cons first rest ih =>
    obtain ⟨key, value⟩ := first
    obtain ⟨⟨name, rfl⟩, here, others⟩ := json
    obtain ⟨params, rfl, values⟩ := ih others
    exact ⟨(name, value) :: params, rfl, List.forall_mem_cons.mpr ⟨here, values⟩⟩

theorem Value.IsJson.record {v : Value} (json : v.IsJson) {params : Params} (read : Checked.dict .ok v = .ok params) :
    v = .record params ∧ params.IsJson := by
  cases v with
  | map entries =>
    obtain ⟨distinct, holds⟩ := json
    obtain ⟨known, rfl, values⟩ := holds.keyed
    have names : (known.map (·.1)).Nodup := by
      rw [Params.keyed, List.map_map] at distinct
      refine List.Nodup.of_map Scalar.text ?_
      rwa [List.map_map]
    rw [← Value.record_eq, Checked.dict_record names] at read
    cases read
    exact ⟨rfl, names, values⟩
  | scalar s => cases read
  | list items => cases read
  | tuple items => exact json.elim
  | set items => exact json.elim
  | named name v => exact json.elim
  | again name => exact json.elim

namespace Graph

structure IsJson (g : Graph) : Prop where
  params : ∀ n ∈ g.nodes, n.params.IsJson
  metadata : g.metadata.IsJson

section Saved

variable {g : Graph} {s : Snapshot}

theorem toSnapshot_ok (saved : g.toSnapshot = .ok s) :
    ∃ metadata, Checked.dict .ok g.metadata = .ok metadata ∧ s.Valid ∧
      s = { nodes := g.nodes.map Node.saved, connections := g.connections
            extensions := g.extensionIds, metadata } := by
  obtain ⟨nodes, written, saved⟩ := bind_ok saved
  obtain ⟨metadata, read, saved⟩ := bind_ok saved
  obtain ⟨rfl, references⟩ := Checked.ensure_ok saved
  have related := mapM_ok written
  have same : g.nodes.map Node.saved = nodes.map id :=
    forall₂_map_eq related fun n d made => (Node.toDocument_ok made).1.symm
  rw [List.map_id] at same
  refine ⟨metadata, Checked.under_ok read, ⟨fun d member => ?_, references⟩, by rw [same]⟩
  obtain ⟨n, -, made⟩ := (forall₂_partners related).2 d member
  obtain ⟨rfl, named⟩ := Node.toDocument_ok made
  exact named

theorem toSnapshot_congr {h : Graph} (nodes : h.nodes = g.nodes) (connections : h.connections = g.connections)
    (extensions : h.extensionIds = g.extensionIds) (metadata : h.metadata = g.metadata) :
    h.toSnapshot = g.toSnapshot := by
  rw [toSnapshot, toSnapshot, nodes, connections, extensions, metadata]

end Saved

section Replay

variable {r : Registry} {g : Graph}

theorem permanentType?_of_paired {id typeId : String} (pair : Paired id typeId) :
    permanentType? id = some typeId ∨ permanentType? id = none ∧ isPermanentType typeId = false := by
  unfold permanentType?
  by_cases source : id = sourceId
  · exact Or.inl (by simp [source, pair.1.mpr source])
  · by_cases localhost : id = localhostId
    · exact Or.inl (by simp [localhost, pair.2.mpr localhost, sourceId, localhostId])
    · have types : typeId ≠ sourceType ∧ typeId ≠ localhostType :=
        ⟨fun type => source (pair.1.mp type), fun type => localhost (pair.2.mp type)⟩
      exact Or.inr ⟨by simp [source, localhost], by simp [isPermanentType, types]⟩

theorem addDocumented_saved {n : Node} (known : r.get? n.type.typeId = some n.type) (pair : Paired n.id n.type.typeId) :
    addDocumented r g n.saved = .ok (g.insert n) := by
  rcases permanentType?_of_paired pair with permanent | ⟨ordinary, free⟩
  · simp [addDocumented, Node.saved, permanent, known]
    rfl
  · simp [addDocumented, Node.saved, ordinary, free, known]
    rfl

theorem refill {nodes : List Node} (known : ∀ n ∈ nodes, r.get? n.type.typeId = some n.type)
    (paired : ∀ n ∈ nodes, Paired n.id n.type.typeId) :
    (nodes.map Node.saved).foldlM (addDocumented r) g = .ok (nodes.foldl insert g) := by
  induction nodes generalizing g with
  | nil => rfl
  | cons n rest ih =>
    obtain ⟨type, types⟩ := List.forall_mem_cons.mp known
    obtain ⟨pair, pairs⟩ := List.forall_mem_cons.mp paired
    rw [List.map_cons, List.foldlM_cons, addDocumented_saved type pair]
    exact ih types pairs

theorem foldl_insert_declared {nodes : List Node}
    (declared : ∀ n ∈ nodes, ∀ id, n.type.extension? = some id → id ∈ g.extensions) :
    nodes.foldl insert g = { g with nodes := g.nodes ++ nodes } := by
  induction nodes generalizing g with
  | nil => rw [List.append_nil, List.foldl_nil]
  | cons n rest ih =>
    obtain ⟨here, others⟩ := List.forall_mem_cons.mp declared
    have inserted : g.insert n = { g with nodes := g.nodes ++ [n] } := by
      cases brought : n.type.extension? with
      | none => simp only [insert, brought]
      | some id => simp [insert, brought, here id brought]
    have later := ih (g := { g with nodes := g.nodes ++ [n] }) others
    rw [List.foldl_cons, inserted]
    exact later.trans (by simp only [List.append_assoc, List.singleton_append])

theorem reconnect {connections : List Connection} (joins : ∀ c ∈ connections, g.Joins c)
    (outputs : ((g.connections ++ connections).map (·.output)).Nodup) :
    connections.foldlM connectDocumented g = .ok { g with connections := g.connections ++ connections } := by
  induction connections generalizing g with
  | nil => simp [Pure.pure, Except.pure]
  | cons c rest ih =>
    obtain ⟨here, others⟩ := List.forall_mem_cons.mp joins
    -- No connection made before has this output, since outputs differ over all of them.
    have free : g.target? c.output = none := by
      rw [List.map_append, List.map_cons, List.nodup_append] at outputs
      exact target?_eq_none.mpr fun member => outputs.2.2 _ member _ List.mem_cons_self rfl
    have made : connectDocumented g c = .ok { g with connections := g.connections ++ [c] } := by
      rw [connectDocumented, connect_ok.mpr ⟨here, free, rfl⟩]
      rfl
    have later := ih (g := { g with connections := g.connections ++ [c] })
      (fun d member => (others d member).transfer rfl rfl) (by simpa using outputs)
    rw [List.foldlM_cons, made]
    exact later.trans (by simp only [List.append_assoc, List.singleton_append])

theorem ofSnapshot_saved (wf : g.WellFormed r) {extensions : List String} (listed : g.extensions ⊆ extensions)
    (metadata : Params) :
    ofSnapshot r { nodes := g.nodes.map Node.saved, connections := g.connections, extensions, metadata } =
      .ok { nodes := g.nodes, connections := g.connections, extensions := extensions.eraseDups,
            metadata := .record metadata } := by
  let start : Graph := { extensions := extensions.eraseDups, metadata := .record metadata }
  have inserted : g.nodes.foldl insert start = { start with nodes := g.nodes } :=
    foldl_insert_declared fun n member id brought => List.mem_eraseDups.mpr (listed (wf.extensions n member id brought))
  have filled : (g.nodes.map Node.saved).foldlM (addDocumented r) start = .ok { start with nodes := g.nodes } :=
    (refill wf.types wf.paired).trans (congrArg _ inserted)
  have connected : g.connections.foldlM connectDocumented { start with nodes := g.nodes } =
      .ok { start with nodes := g.nodes, connections := g.connections } :=
    reconnect (fun c member => (wf.connections c member).transfer rfl rfl) wf.outputs
  have present : ∀ id ∈ [sourceId, localhostId], contains { start with nodes := g.nodes } id = true :=
    List.forall_mem_cons.mpr
      ⟨contains_iff.mpr wf.source, List.forall_mem_singleton.mpr (contains_iff.mpr wf.localhost)⟩
  have complete : [sourceId, localhostId].filter (fun id => !contains { start with nodes := g.nodes } id) = [] :=
    List.filter_eq_nil_iff.mpr fun id member => by simp [present id member]
  simp only [ofSnapshot, Bind.bind, Except.bind, filled, complete, connected, start]

end Replay

section Saving

variable {r : Registry} {g : Graph} {s : Snapshot}

theorem Declares.loaded (declares : g.Declares r)
    (loaded : ∀ t ∈ r.types, ∀ id, t.extension? = some id → r.hasExtension id = true) :
    ∀ id ∈ g.extensions, r.hasExtension id = true := by
  intro id member
  rcases declares.known id member with present | ⟨t, known, brought⟩
  · exact present
  · exact loaded t known id brought

theorem extensionIds_sorted (g : Graph) : g.extensionIds.mergeSort = g.extensionIds := by
  have sorted : g.extensionIds.Pairwise fun a b => id a ≤ id b := pairwise_mergeSort (by simp) g.extensions
  exact List.mergeSort_of_pairwise (sorted.imp fun ordered => by simpa using ordered)

/-- The snapshot of an authored graph makes the graph again, with a new counter for generated ids. -/
theorem Authored.ofSnapshot_toSnapshot (authored : Authored r g) (json : g.IsJson) (saved : g.toSnapshot = .ok s) :
    ∃ h, ofSnapshot r s = .ok h ∧ h.nodes = g.nodes ∧ h.connections = g.connections ∧
      h.extensionIds = g.extensionIds ∧ h.metadata = g.metadata := by
  obtain ⟨metadata, read, -, rfl⟩ := toSnapshot_ok saved
  have listed := List.mergeSort_perm g.extensions (· ≤ ·)
  have distinct : g.extensionIds.Nodup := listed.nodup_iff.mpr authored.declares.distinct
  have same : (g.extensionIds.eraseDups).mergeSort = g.extensionIds := by
    have compares : ∀ a b : String, decide (a ≤ b) = true ↔ id a ≤ id b := by simp
    refine (mergeSort_eq_of_perm compares ?_ fun _ _ _ _ => id).trans (extensionIds_sorted g)
    exact (List.perm_ext_iff_of_nodup (eraseDups_nodup _) distinct).mpr fun _ => List.mem_eraseDups
  exact ⟨_, ofSnapshot_saved authored.well_formed.2 (listed.symm.subset) metadata, rfl, rfl, same,
    (json.metadata.record read).1.symm⟩

theorem toSnapshot_json (json : g.IsJson) (saved : g.toSnapshot = .ok s) : s.IsJson := by
  obtain ⟨metadata, read, -, rfl⟩ := toSnapshot_ok saved
  exact ⟨List.forall_mem_map.mpr json.params, (json.metadata.record read).2⟩

/-- A graph with JSON values that has a snapshot is written unless a value is too high, and what was written opens as
    the graph over the same registry. -/
theorem saved_graph_reopens (authored : Authored r g)
    (loaded : ∀ t ∈ r.types, ∀ id, t.extension? = some id → r.hasExtension id = true) (json : g.IsJson)
    (saved : g.toSnapshot = .ok s) :
    (¬ s.Shallow → s.toValue = .error .tooDeep) ∧
      (s.Shallow → ∃ v, s.toValue = .ok v ∧ ∀ loader? t, (openValue r loader? t v).registry = r ∧
        ∃ h, (openValue r loader? t v).outcome = .ok h ∧ h.nodes = g.nodes ∧ h.connections = g.connections ∧
          h.extensionIds = g.extensionIds ∧ h.metadata = g.metadata ∧ h.toSnapshot = .ok s) := by
  have written := Snapshot.toValue_json (toSnapshot_json json saved)
  refine ⟨fun deep => by rw [written, if_neg deep], fun shallow => ⟨s.document, by rw [written, if_pos shallow], ?_⟩⟩
  intro loader? t
  -- The document lists the extensions sorted, as the snapshot has them.
  have read : Snapshot.check s.document = .ok s := by
    obtain ⟨metadata, -, valid, same⟩ := toSnapshot_ok saved
    rw [Snapshot.check_document valid (toSnapshot_json json saved), same, extensionIds_sorted]
  have required : r.require loader? t s.extensions = { registry := r } := by
    obtain ⟨metadata, -, -, same⟩ := toSnapshot_ok saved
    refine Registry.require_eq fun id member => authored.declares.loaded loaded id ?_
    rw [same] at member
    exact (List.mergeSort_perm g.extensions (· ≤ ·)).subset member
  obtain ⟨h, opened, nodes, connections, extensions, metadata⟩ := authored.ofSnapshot_toSnapshot json saved
  have opening : openValue r loader? t s.document = { registry := r, outcome := .ok h } := by
    simp only [openValue, read, openSnapshot, required, opened]
  rw [opening]
  exact ⟨rfl, h, rfl, nodes, connections, extensions, metadata,
    (toSnapshot_congr nodes connections extensions metadata).trans saved⟩

end Saving

def lab : Bundle := .ofTypes "lab" [{ Builtin.drop.nodeType with typeId := "lab:sink" }]

def equipped : Registry :=
  { types := Registry.builtin.types ++ lab.types, extensions := [(lab.id, lab.fingerprint)] }

def sunk : Graph :=
  { Graph.new.edits equipped
      [.add "lab:sink" (some "sink") [("label", .text "the end")] (.list [.int 3, .int 4]),
        .connect ⟨⟨sourceId, "out"⟩, ⟨"sink", "in"⟩⟩] with
    metadata := .record [("zoom", .list [.int 2, .null])] }

theorem sunk_reopens : ∃ s v h, sunk.toSnapshot = .ok s ∧ s.toValue = .ok v ∧
    (openValue equipped none (.empty (Path.ofText "/")) v).outcome = .ok h ∧ h.nodes = sunk.nodes ∧
      h.connections = sunk.connections ∧ h.extensionIds = sunk.extensionIds ∧ h.toSnapshot = .ok s ∧
      sunk.nodeIds = [sourceId, localhostId, "sink"] ∧ sunk.extensions = ["lab"] := by
  have loading : Registry.builtin.load lab = .ok (equipped, true) :=
    Registry.load_of_new rfl (Registry.clashes_eq_nil.mpr (by decide))
  have authored : Authored equipped sunk := .annotated (.edits (.new (.loaded .builtin loading)) _) _
  have loaded : ∀ t ∈ equipped.types, ∀ id, t.extension? = some id → equipped.hasExtension id = true := by
    have brought : ∀ t ∈ equipped.types, t.extension? = none ∨ t.extension? = some "lab" := by decide
    intro t member id same
    rcases brought t member with none | here
    · cases none.symm.trans same
    · cases here.symm.trans same
      rfl
  have json : sunk.IsJson := by
    constructor
    case params =>
      have nodes : sunk.nodes.map (·.params) = [[], [], [("label", .text "the end")]] := by rfl
      have each : ∀ params ∈ sunk.nodes.map (·.params), params.IsJson := by
        rw [nodes]
        refine List.forall_mem_cons.mpr ⟨.nil, List.forall_mem_cons.mpr ⟨.nil, List.forall_mem_singleton.mpr ?_⟩⟩
        exact ⟨by decide, List.forall_mem_singleton.mpr trivial⟩
      exact fun n member => each _ (List.mem_map_of_mem member)
    case metadata => exact ⟨by decide, ⟨_, rfl⟩, ⟨trivial, trivial, trivial⟩, trivial⟩
  have saved : sunk.toSnapshot = .ok
      { nodes := sunk.nodes.map Node.saved, connections := sunk.connections, extensions := sunk.extensionIds
        metadata := [("zoom", .list [.int 2, .null])] } := by rfl
  obtain ⟨-, reopens⟩ := saved_graph_reopens authored loaded json saved
  obtain ⟨v, written, opens⟩ := reopens (by decide)
  obtain ⟨-, h, opened, nodes, connections, extensions, -, again⟩ := opens none (.empty (Path.ofText "/"))
  exact ⟨_, v, h, saved, written, opened, nodes, connections, extensions, again, by rfl, by rfl⟩

def nested : Nat → Value
  | 0 => .list []
  | n + 1 => .list [nested n]

theorem nested_json (n : Nat) : (nested n).IsJson := by
  induction n with
  | zero => trivial
  | succ n ih => exact ⟨ih, trivial⟩

theorem nested_height (n : Nat) : (nested n).height = n + 1 := by
  induction n with
  | zero => rfl
  | succ n ih => simp [nested, Value.height, Value.heightItems, ih]

def deep : Graph := { Graph.new with metadata := .record [("m", nested 259)] }

theorem deep_metadata_not_written :
    Authored .builtin deep ∧
      (∀ t ∈ Registry.builtin.types, ∀ id, t.extension? = some id → Registry.builtin.hasExtension id = true) ∧
      deep.IsJson ∧ ∃ s, deep.toSnapshot = .ok s ∧ s.toValue = .error .tooDeep := by
  have json : deep.IsJson := by
    constructor
    case params =>
      intro n member
      have empty : n.params = [] := by
        simp only [deep, new, insert, List.nil_append, List.singleton_append, List.mem_cons, List.not_mem_nil,
          or_false] at member
        rcases member with rfl | rfl <;> rfl
      exact empty ▸ .nil
    case metadata => exact ⟨by decide, ⟨_, rfl⟩, nested_json 259, trivial⟩
  have saved : deep.toSnapshot = .ok
      { nodes := deep.nodes.map Node.saved, extensions := deep.extensionIds, metadata := [("m", nested 259)] } := by rfl
  refine ⟨.annotated (.new .builtin) _, ?_, json, _, saved, ?_⟩
  · have none : ∀ t ∈ Registry.builtin.types, t.extension? = none := by decide
    intro t member id brought
    cases (none t member).symm.trans brought
  · rw [Snapshot.toValue_json (toSnapshot_json json saved), if_neg]
    intro shallow
    have short := shallow.2 _ List.mem_cons_self
    rw [nested_height] at short
    exact absurd short (by decide)

end Graph
end FilterGraph
