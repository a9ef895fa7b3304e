import FilterGraph.Proofs.Snapshot.Reopening

namespace FilterGraph

/-- The document is to blame: it is corrupt, or it names a type that is not registered. -/
def GraphError.BlamesDocument (e : GraphError) : Prop := (∃ c, e = .corrupt c) ∨ ∃ typeId, e = .unknownType typeId

namespace Snapshot

section Conditions

variable (r : Registry) (s : Snapshot)

/-- The port a reference stands for: the one with its name on the registered type of its node. -/
def HasPort (ref : PortRef) (p : Port) : Prop :=
  ∃ n ∈ s.nodes, n.id = ref.node ∧ ∃ type, r.get? n.typeId = some type ∧ type.port? ref.port = some p

def Joins (c : Connection) : Prop :=
  ∃ output input, s.HasPort r c.output output ∧ s.HasPort r c.input input ∧ c.output.node ≠ c.input.node ∧
    output.kind = .output ∧ input.kind = .input ∧ output.family.compatible input.family = true ∧
      output.flow.compatible input.flow = true

structure WellFormed : Prop where
  ids : s.nodeIds.Nodup
  source : sourceId ∈ s.nodeIds
  localhost : localhostId ∈ s.nodeIds
  paired : ∀ n ∈ s.nodes, Graph.Paired n.id n.typeId
  types : ∀ n ∈ s.nodes, ∃ type, r.get? n.typeId = some type
  connections : ∀ c ∈ s.connections, s.Joins r c
  outputs : (s.connections.map (·.output)).Nodup

end Conditions

section References

variable {r : Registry} {s : Snapshot}

theorem firstRepeated?_of_nodup {α : Type} [BEq α] [LawfulBEq α] {seen l : List α} (distinct : l.Nodup)
    (fresh : ∀ a ∈ l, a ∉ seen) : firstRepeated? seen l = none := by
  induction l generalizing seen with
  | nil => rfl
  | cons a rest ih =>
    obtain ⟨apart, distinct⟩ := List.nodup_cons.mp distinct
    obtain ⟨unseen, others⟩ := List.forall_mem_cons.mp fresh
    rw [firstRepeated?, if_neg (by simpa using unseen)]
    refine ih distinct fun b member => ?_
    rw [List.mem_cons, not_or]
    exact ⟨fun same => apart (same ▸ member), others b member⟩

theorem HasPort.node_mem {ref : PortRef} {p : Port} (port : s.HasPort r ref p) : ref.node ∈ s.nodeIds := by
  obtain ⟨n, member, id, -⟩ := port
  exact List.mem_map.mpr ⟨n, member, id⟩

theorem WellFormed.references (wf : s.WellFormed r) : s.problem? = none := by
  have ids : firstRepeated? [] s.nodeIds = none := firstRepeated?_of_nodup wf.ids fun _ _ => List.not_mem_nil
  have outputs : firstRepeated? [] (s.connections.map (·.output)) = none :=
    firstRepeated?_of_nodup wf.outputs fun _ _ => List.not_mem_nil
  have ends : s.firstLooseEnd? = none := by
    rw [firstLooseEnd?, List.find?_eq_none]
    intro ref member
    obtain ⟨c, listed, here⟩ := List.mem_flatMap.mp member
    obtain ⟨_, _, output, input, -⟩ := wf.connections c listed
    have known : ref.node ∈ s.nodeIds := by
      simp only [List.mem_cons, List.not_mem_nil, or_false] at here
      rcases here with rfl | rfl
      · exact output.node_mem
      · exact input.node_mem
    simpa using known
  simp only [problem?, ids, ends, outputs, Option.map_none]

end References

end Snapshot

namespace Graph

section Contents

variable {r : Registry} {g : Graph} {s : Snapshot}

theorem addDocumented_contents {nodes : List SnapshotNode} {next : Graph}
    (added : nodes.foldlM (addDocumented r) g = .ok next) :
    next.nodes.map Node.saved = g.nodes.map Node.saved ++ nodes ∧ next.connections = g.connections := by
  induction nodes generalizing g with
  | nil =>
    cases added
    exact ⟨(List.append_nil _).symm, rfl⟩
  | cons n rest ih =>
    rw [List.foldlM_cons] at added
    obtain ⟨h, first, later⟩ := bind_ok added
    obtain ⟨-, type, known, rfl⟩ := addDocumented_ok first
    have saved : Node.saved { id := n.id, type, params := n.params, position := n.position } = n := by
      simp only [Node.saved, Registry.get?_typeId known]
    obtain ⟨nodes, connections⟩ := ih later
    refine ⟨?_, connections⟩
    rw [nodes, insert, List.map_append, List.map_singleton, saved, List.append_assoc, List.singleton_append]

theorem connectDocumented_contents {connections : List Connection} {next : Graph}
    (made : connections.foldlM connectDocumented g = .ok next) :
    next.nodes = g.nodes ∧ next.connections = g.connections ++ connections := by
  induction connections generalizing g with
  | nil =>
    cases made
    exact ⟨rfl, (List.append_nil _).symm⟩
  | cons c rest ih =>
    rw [List.foldlM_cons] at made
    obtain ⟨h, first, later⟩ := bind_ok made
    obtain ⟨-, -, rfl⟩ := connect_ok.mp (connectDocumented_ok first)
    obtain ⟨nodes, connections⟩ := ih later
    exact ⟨nodes, by rw [connections, List.append_assoc, List.singleton_append]⟩

theorem ofSnapshot_contents (opening : ofSnapshot r s = .ok g) :
    g.nodes.map Node.saved = s.nodes ∧ g.connections = s.connections := by
  obtain ⟨h, added, made⟩ := bind_ok opening
  split at made
  · obtain ⟨nodes, empty⟩ := addDocumented_contents added
    obtain ⟨same, connections⟩ := connectDocumented_contents made
    refine ⟨same ▸ nodes, ?_⟩
    rw [connections, empty]
    rfl
  · cases made

end Contents

section Correspondence

variable {r : Registry} {g : Graph} {s : Snapshot} (sound : g.Sound r) (nodes : g.nodes.map Node.saved = s.nodes)

include sound nodes

theorem hasPort_iff {ref : PortRef} {p : Port} : s.HasPort r ref p ↔ g.port? ref = some p := by
  rw [port?_eq]
  constructor
  · rintro ⟨d, member, id, type, known, port⟩
    obtain ⟨n, present, rfl⟩ := List.mem_map.mp (nodes ▸ member)
    have own : n.type = type := Option.some.inj ((sound.types n present).symm.trans known)
    have here : n.id = ref.node := id
    exact ⟨n, here ▸ sound.node?_of_mem present, own ▸ port⟩
  · rintro ⟨n, found, port⟩
    obtain ⟨member, id⟩ := node?_mem found
    exact ⟨n.saved, nodes ▸ List.mem_map_of_mem member, id, n.type, sound.types n member, port⟩

theorem joins_iff {c : Connection} : s.Joins r c ↔ g.Joins c := by
  simp only [Snapshot.Joins, Joins, hasPort_iff sound nodes]

end Correspondence

section Acceptance

variable {r : Registry} {s : Snapshot}

theorem nodeIds_document {g : Graph} (nodes : g.nodes.map Node.saved = s.nodes) : s.nodeIds = g.nodeIds := by
  rw [Snapshot.nodeIds, ← nodes, List.map_map]
  rfl

theorem WellFormed.document {g : Graph} (wf : g.WellFormed r) (nodes : g.nodes.map Node.saved = s.nodes)
    (connections : g.connections = s.connections) : s.WellFormed r := by
  have ids := nodeIds_document nodes
  have described : ∀ d ∈ s.nodes, ∃ n ∈ g.nodes, n.saved = d := fun d member => List.mem_map.mp (nodes ▸ member)
  constructor
  case ids => exact ids ▸ wf.ids
  case source => exact ids ▸ wf.source
  case localhost => exact ids ▸ wf.localhost
  case paired =>
    intro d member
    obtain ⟨n, present, rfl⟩ := described d member
    exact wf.paired n present
  case types =>
    intro d member
    obtain ⟨n, present, rfl⟩ := described d member
    exact ⟨n.type, wf.types n present⟩
  case connections =>
    intro c member
    exact (joins_iff wf.toSound nodes).mpr (wf.connections c (connections ▸ member))
  case outputs => exact connections ▸ wf.outputs

theorem exists_nodes {ds : List SnapshotNode} (types : ∀ d ∈ ds, ∃ type, r.get? d.typeId = some type) :
    ∃ nodes : List Node, nodes.map Node.saved = ds ∧ ∀ n ∈ nodes, r.get? n.type.typeId = some n.type := by
  induction ds with
  | nil => exact ⟨[], rfl, fun n member => absurd member List.not_mem_nil⟩
  | cons d rest ih =>
    obtain ⟨⟨type, known⟩, others⟩ := List.forall_mem_cons.mp types
    obtain ⟨nodes, saved, registered⟩ := ih others
    have own := Registry.get?_typeId known
    refine ⟨{ id := d.id, type, params := d.params, position := d.position } :: nodes, ?_, ?_⟩
    · rw [List.map_cons, saved, Node.saved, own]
    · exact List.forall_mem_cons.mpr ⟨own ▸ known, registered⟩

theorem foldl_insert_contents (g : Graph) (nodes : List Node) :
    (nodes.foldl insert g).nodes = g.nodes ++ nodes ∧ (nodes.foldl insert g).connections = g.connections := by
  induction nodes generalizing g with
  | nil => exact ⟨(List.append_nil _).symm, rfl⟩
  | cons n rest ih =>
    obtain ⟨nodes, connections⟩ := ih (g.insert n)
    refine ⟨?_, connections⟩
    rw [List.foldl_cons, nodes, insert, List.append_assoc, List.singleton_append]

theorem ofSnapshot_of_well_formed (wf : s.WellFormed r) : ∃ g, ofSnapshot r s = .ok g := by
  let start : Graph := { extensions := s.extensions.eraseDups, metadata := .record s.metadata }
  obtain ⟨nodes, saved, known⟩ := exists_nodes wf.types
  let filled := nodes.foldl insert start
  obtain ⟨listed, unconnected⟩ := foldl_insert_contents start nodes
  have paired : ∀ n ∈ nodes, Paired n.id n.type.typeId := fun n member =>
    wf.paired n.saved (saved ▸ List.mem_map_of_mem member)
  have added : s.nodes.foldlM (addDocumented r) start = .ok filled := saved ▸ refill known paired
  have sound : filled.Sound r := by
    refine addDocumented_fold (start_sound r _ _) wf.ids ?_ added
    exact fun _ _ member => absurd member List.not_mem_nil
  have here : filled.nodes.map Node.saved = s.nodes := by
    rw [listed]
    exact saved
  have present : ∀ id ∈ [sourceId, localhostId], filled.contains id = true := by
    have ids := nodeIds_document here
    exact List.forall_mem_cons.mpr ⟨contains_iff.mpr (ids ▸ wf.source),
      List.forall_mem_singleton.mpr (contains_iff.mpr (ids ▸ wf.localhost))⟩
  have complete : [sourceId, localhostId].filter (fun id => !filled.contains id) = [] :=
    List.filter_eq_nil_iff.mpr fun id member => by simp [present id member]
  have connected := reconnect (g := filled) (fun c member => (joins_iff sound here).mp (wf.connections c member))
    (by rw [unconnected]; exact wf.outputs)
  have opening : ofSnapshot r s = s.connections.foldlM connectDocumented filled := by
    simp only [ofSnapshot, Bind.bind, Except.bind, added, complete, start]
  exact ⟨_, opening.trans connected⟩

end Acceptance

section Refusal

variable {r : Registry} {g : Graph} {e : GraphError}

theorem addDocumented_fails {n : SnapshotNode} (failed : addDocumented r g n = .error e) : e.BlamesDocument := by
  unfold addDocumented at failed
  cases permanent : permanentType? n.id <;> simp only [permanent] at failed <;> split at failed
  case none.isTrue | some.isTrue =>
    cases failed
    exact Or.inl ⟨_, rfl⟩
  case none.isFalse | some.isFalse =>
    split at failed <;> cases failed
    exact Or.inr ⟨_, rfl⟩

theorem connectDocumented_fails {c : Connection} (failed : connectDocumented g c = .error e) : e.BlamesDocument := by
  unfold connectDocumented at failed
  cases made : g.connect c with
  | ok next => rw [made] at failed; cases failed
  | error reason =>
    rw [made] at failed
    cases failed
    exact Or.inl ⟨_, rfl⟩

theorem ofSnapshot_fails {s : Snapshot} (failed : ofSnapshot r s = .error e) : e.BlamesDocument := by
  rcases bind_error failed with adding | ⟨h, -, connecting⟩
  · exact foldlM_fails (fun _ _ _ => addDocumented_fails) adding
  · split at connecting
    · exact foldlM_fails (fun _ _ _ => connectDocumented_fails) connecting
    · cases connecting
      exact Or.inl ⟨_, rfl⟩

end Refusal

/-- A document whose fields can be read opens exactly when it is well formed, and is to blame when it does not. -/
theorem opens_iff_well_formed {r : Registry} {v : Value} {s : Snapshot} (fields : Snapshot.read v = .ok s)
    (loaded : ∀ id ∈ s.extensions, r.hasExtension id = true) (loader? : Option Loader) (t : FileTree) :
    ((∃ g, (openValue r loader? t v).outcome = .ok g) ↔ s.WellFormed r) ∧
      ∀ e, (openValue r loader? t v).outcome = .error e → e.BlamesDocument := by
  have required : r.require loader? t s.extensions = { registry := r } := Registry.require_eq loaded
  have checked : Snapshot.check v = Checked.ensure Snapshot.problem? s := by rw [Snapshot.check, fields]; rfl
  cases references : s.problem? with
  | some problem =>
    have refused : (openValue r loader? t v).outcome =
        .error (.corrupt (.invalid none [⟨.value problem, []⟩])) := by
      simp only [openValue, checked, Checked.ensure, references, Checked.fail]
    rw [refused]
    constructor
    · refine iff_of_false ?_ fun wf => ?_
      · rintro ⟨g, opened⟩
        cases opened
      · cases references.symm.trans wf.references
    · rintro e ⟨⟩
      exact Or.inl ⟨_, rfl⟩
  | none =>
    have opening : (openValue r loader? t v).outcome = ofSnapshot r s := by
      simp only [openValue, checked, Checked.ensure, references, openSnapshot, required]
    have valid : s.Valid := Snapshot.check_valid (v := v) (by rw [checked, Checked.ensure, references])
    rw [opening]
    refine ⟨⟨?_, ofSnapshot_of_well_formed⟩, fun e failed => ofSnapshot_fails failed⟩
    rintro ⟨g, opened⟩
    obtain ⟨nodes, connections⟩ := ofSnapshot_contents opened
    exact (ofSnapshot_well_formed valid opened).document nodes connections

def labSnapshot (connections : List Connection) : Snapshot :=
  { nodes := [{ id := sourceId, typeId := sourceType }, { id := localhostId, typeId := localhostType },
      { id := "sink", typeId := "lab:sink" }]
    connections, extensions := [lab.id] }

def labDocument (connections : List Connection) : Value :=
  .record [("nodes", .list ((labSnapshot connections).nodes.map fun n =>
      .record [("id", .text n.id), ("type", .text n.typeId)])),
    ("connections", .list (connections.map Connection.toValue)), ("extensions", .texts [lab.id])]

theorem lab_document_opens :
    let sunken : Connection := ⟨⟨sourceId, "out"⟩, ⟨"sink", "in"⟩⟩
    let delivered : Connection := ⟨⟨sourceId, "out"⟩, ⟨localhostId, "in"⟩⟩
    let outcome (connections : List Connection) :=
      (openValue equipped none (.empty (Path.ofText "/")) (labDocument connections)).outcome
    (∃ g, outcome [sunken] = .ok g) ∧ ¬ (∃ g, outcome [sunken, delivered] = .ok g) ∧
      ∀ e, outcome [sunken, delivered] = .error e → e.BlamesDocument := by
  intro sunken delivered outcome
  have loaded : ∀ id ∈ (labSnapshot []).extensions, equipped.hasExtension id = true := by decide
  have one := opens_iff_well_formed (v := labDocument [sunken]) (s := labSnapshot [sunken]) (by rfl) loaded none
    (.empty (Path.ofText "/"))
  have two := opens_iff_well_formed (v := labDocument [sunken, delivered]) (s := labSnapshot [sunken, delivered])
    (by rfl) loaded none (.empty (Path.ofText "/"))
  have paired : ∀ n ∈ (labSnapshot [sunken]).nodes,
      (n.typeId = sourceType ↔ n.id = sourceId) ∧ (n.typeId = localhostType ↔ n.id = localhostId) := by decide
  have registered : ∀ n ∈ (labSnapshot [sunken]).nodes, (equipped.get? n.typeId).isSome = true := by decide
  have output : (labSnapshot [sunken]).HasPort equipped sunken.output (.output "out" "incoming") :=
    ⟨_, List.mem_cons_self, rfl, Builtin.source.nodeType, rfl, rfl⟩
  have input : (labSnapshot [sunken]).HasPort equipped sunken.input .input :=
    ⟨_, List.mem_cons_of_mem _ (List.mem_cons_of_mem _ List.mem_cons_self), rfl, _, rfl, rfl⟩
  have wf : (labSnapshot [sunken]).WellFormed equipped := by
    constructor
    case ids => decide
    case source => decide
    case localhost => decide
    case paired => exact paired
    case types => exact fun n member => Option.isSome_iff_exists.mp (registered n member)
    case connections => exact List.forall_mem_singleton.mpr ⟨_, _, output, input, by decide, rfl, rfl, rfl, rfl⟩
    case outputs => decide
  exact ⟨one.1.mpr wf, fun opened => absurd (two.1.mp opened).outputs (by decide), two.2⟩

end Graph
end FilterGraph
