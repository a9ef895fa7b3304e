import FilterGraph.Proofs.Graph.Opening
import FilterGraph.Proofs.Snapshot.Json
import FilterGraph.Proofs.Sorting

namespace FilterGraph

def Params.keyed (params : Params) : List (Scalar × Value) := params.map fun (name, value) => (.text name, value)

theorem Value.record_eq (params : Params) : Value.record params = .map params.keyed := rfl

namespace Checked

theorem all_map {α β : Type} {check : β → Checked α} {f : β → α} {xs : List β}
    (passed : ∀ x ∈ xs, check x = .ok (f x)) : all (xs.map check) = .ok (xs.map f) := by
  induction xs with
  | nil => rfl
  | cons x rest ih =>
    obtain ⟨here, others⟩ := List.forall_mem_cons.mp passed
    rw [List.map_cons, all, here, ih others]
    rfl

theorem all_numbered {α : Type} {item : Value → Checked α} {write : α → Value} {xs : List α}
    (passed : ∀ x ∈ xs, item (write x) = .ok x) (start : Nat) :
    all (((xs.map write).zipIdx start).map fun (v, i) => (item v).under (.index i)) = .ok xs := by
  induction xs generalizing start with
  | nil => rfl
  | cons x rest ih =>
    obtain ⟨here, others⟩ := List.forall_mem_cons.mp passed
    simp only [List.map_cons, List.zipIdx_cons, all, here, ih others]
    rfl

theorem list_map {α : Type} {item : Value → Checked α} {write : α → Value} {xs : List α}
    (passed : ∀ x ∈ xs, item (write x) = .ok x) : list item (.list (xs.map write)) = .ok xs := all_numbered passed 0

theorem matching_text {pattern : List Char → Bool} {s : String} (matched : pattern s.toList = true) :
    matching pattern (.text s) = .ok s := by
  simp only [matching, Value.text, string, Bind.bind, Except.bind, matched, if_true]
  rfl

theorem record_record {α : Type} (fields : List (Scalar × Value) → Checked α) (params : Params) :
    record fields (.record params) = fields params.keyed := rfl

theorem field_keyed {α : Type} (name other : String) (item : Value → Checked α) (absent : Checked α) (v : Value)
    (rest : Params) : field name item absent (Params.keyed ((other, v) :: rest)) =
      if name = other then (item v).under (.field name) else field name item absent rest.keyed := by
  have compared : (Scalar.text name == Scalar.text other) = decide (name = other) := by
    rw [Bool.eq_iff_iff, beq_iff_eq, decide_eq_true_eq, Scalar.text.injEq]
  by_cases same : name = other <;> simp [Params.keyed, field, List.lookup_cons, compared, same]

theorem noOthers_keyed {known : List String} {params : Params} (listed : ∀ e ∈ params, e.1 ∈ known) :
    noOthers known params.keyed = .ok () := by
  unfold noOthers Params.keyed
  rw [List.filterMap_map, List.filterMap_eq_nil_iff.mpr]
  · rfl
  · intro e member
    simp [listed e member]

theorem all_keyed (params : Params) : all (params.keyed.map fun (k, v) =>
    (both ((string (.scalar k)).under (.field "[key]")) (.ok v)).under (.key k)) = .ok params := by
  rw [Params.keyed, List.map_map]
  exact (all_map fun e _ => rfl).trans (by simp)

theorem dict_record {params : Params} (distinct : (params.map (·.1)).Nodup) :
    dict .ok (.record params) = .ok params := by
  have apart : params.Pairwise fun a b => (a.1 == b.1) = false :=
    (List.pairwise_map.mp distinct).imp fun differ => beq_false_of_ne differ
  have kept := @Entries.foldl_setBy _ _ _ [] _ apart
  simp only [dict, Value.record_eq, Value.entries?, Value.unfolded, all_keyed]
  exact congrArg Except.ok kept

end Checked

theorem Connection.check_toValue (c : Connection) : Connection.check c.toValue = .ok c := rfl

namespace SnapshotNode

def fields (n : SnapshotNode) : Params :=
  [("id", .text n.id), ("type", .text n.typeId), ("params", .record n.params),
    ("position", .list [.float n.position.1, .float n.position.2])]

def document (n : SnapshotNode) : Value := .record n.fields

theorem toValue_json {n : SnapshotNode} (json : n.params.IsJson) :
    n.toValue = if n.params.Shallow then .ok n.document else .error .tooDeep := by
  rw [toValue, Params.plain_json json]
  split <;> rfl

theorem check_document {n : SnapshotNode} (id : isNodeId n.id.toList = true)
    (distinct : (n.params.map (·.1)).Nodup) : check n.document = .ok n := by
  have named := Checked.matching_text id
  have params := Checked.dict_record distinct
  have others : Checked.noOthers ["id", "type", "params", "position"] n.fields.keyed = .ok () :=
    Checked.noOthers_keyed (by simp [fields])
  rw [check, document, Checked.record_record]
  simp only [others]
  simp only [fields, Checked.required, Checked.defaulted, Checked.field_keyed, reduceIte, String.reduceEq, named,
    params]
  rfl

end SnapshotNode

namespace Snapshot

def fields (s : Snapshot) : Params :=
  [("version", .int s.version), ("nodes", .list (s.nodes.map SnapshotNode.document)),
    ("connections", .list (s.connections.map Connection.toValue)), ("extensions", .texts s.extensions.mergeSort),
    ("metadata", .record s.metadata)]

def document (s : Snapshot) : Value := .record s.fields

structure IsJson (s : Snapshot) : Prop where
  params : ∀ n ∈ s.nodes, n.params.IsJson
  metadata : s.metadata.IsJson

def Shallow (s : Snapshot) : Prop := (∀ n ∈ s.nodes, n.params.Shallow) ∧ s.metadata.Shallow

instance (s : Snapshot) : Decidable s.Shallow := inferInstanceAs (Decidable (_ ∧ _))

theorem mapM_toValue {nodes : List SnapshotNode} (json : ∀ n ∈ nodes, n.params.IsJson) :
    nodes.mapM SnapshotNode.toValue =
      if ∀ n ∈ nodes, n.params.Shallow then .ok (nodes.map SnapshotNode.document) else .error .tooDeep := by
  induction nodes with
  | nil => rfl
  | cons n rest ih =>
    obtain ⟨first, others⟩ := List.forall_mem_cons.mp json
    rw [List.mapM_cons, ih others, SnapshotNode.toValue_json first]
    simp only [List.forall_mem_cons]
    exact bind_guarded n.document (rest.map SnapshotNode.document) Unwritable.tooDeep List.cons

/-- A snapshot with JSON values is written as its document unless a value is too high. -/
theorem toValue_json {s : Snapshot} (json : s.IsJson) :
    s.toValue = if s.Shallow then .ok s.document else .error .tooDeep := by
  rw [toValue, mapM_toValue json.params, Params.plain_json json.metadata]
  exact bind_guarded (p := ∀ n ∈ s.nodes, n.params.Shallow) (q := s.metadata.Shallow)
    (s.nodes.map SnapshotNode.document) (.record s.metadata) Unwritable.tooDeep fun nodes metadata =>
      Value.record [("version", .int s.version), ("nodes", .list nodes),
        ("connections", .list (s.connections.map Connection.toValue)), ("extensions", .texts s.extensions.mergeSort),
        ("metadata", metadata)]

theorem check_document {s : Snapshot} (valid : s.Valid) (json : s.IsJson) :
    check s.document = .ok { s with extensions := s.extensions.mergeSort } := by
  have nodes : Checked.list SnapshotNode.check (.list (s.nodes.map SnapshotNode.document)) = .ok s.nodes :=
    Checked.list_map fun n member => SnapshotNode.check_document (valid.ids n member) (json.params n member).distinct
  have connections : Checked.list Connection.check (.list (s.connections.map Connection.toValue)) = .ok s.connections :=
    Checked.list_map fun c _ => c.check_toValue
  have extensions : Checked.list Checked.string (.texts s.extensions.mergeSort) = .ok s.extensions.mergeSort :=
    Checked.list_map fun id _ => rfl
  have others : Checked.noOthers ["version", "nodes", "connections", "extensions", "metadata"] s.fields.keyed = .ok () :=
    Checked.noOthers_keyed (by simp [fields])
  have metadata := Checked.dict_record json.metadata.distinct
  have version : Checked.int (.int s.version) = .ok s.version := rfl
  have clear : problem? { s with extensions := s.extensions.mergeSort } = none := valid.references
  rw [check, read, document, Checked.record_record]
  simp only [others]
  simp only [fields, Checked.required, Checked.defaulted, Checked.field_keyed, reduceIte, String.reduceEq, nodes,
    connections, extensions, version, metadata]
  have ensured : Checked.ensure problem? { s with extensions := s.extensions.mergeSort } =
      .ok { s with extensions := s.extensions.mergeSort } := by rw [Checked.ensure, clear]
  exact ensured

end Snapshot
end FilterGraph
