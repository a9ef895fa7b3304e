import FilterGraph.Proofs.Graph.Editing

namespace FilterGraph

theorem Registry.builtin_get? (b : Builtin) : Registry.builtin.get? b.typeId = some b.nodeType := by
  rcases b with _ | _ | (_ | _ | _ | _) | _ | _ | _ | _ | _ <;> try rfl
  all_goals rename_i side; cases side <;> rfl

theorem Registry.load_types {r next : Registry} {b : Bundle} {isNew : Bool}
    (loading : r.load b = .ok (next, isNew)) : ∃ more, next.types = r.types ++ more := by
  unfold load at loading
  split at loading
  · split at loading
    · cases loading
      exact ⟨[], (List.append_nil _).symm⟩
    · cases loading
  · split at loading
    · cases loading
      exact ⟨b.types, rfl⟩
    · cases loading

theorem Registry.Built.get?_builtin {r : Registry} (built : r.Built) (b : Builtin) :
    r.get? b.typeId = some b.nodeType := by
  induction built with
  | builtin => exact builtin_get? b
  | loaded built loading ih =>
    obtain ⟨more, types⟩ := load_types loading
    unfold get? at ih ⊢
    rw [types, List.find?_append, ih, Option.some_or]

theorem Snapshot.firstRepeated?_eq_none {α : Type} [BEq α] [LawfulBEq α] {seen l : List α}
    (none : firstRepeated? seen l = none) : l.Nodup ∧ ∀ a ∈ l, a ∉ seen := by
  induction l generalizing seen with
  | nil => exact ⟨List.nodup_nil, fun _ member => absurd member List.not_mem_nil⟩
  | cons a rest ih =>
    simp only [firstRepeated?] at none
    split at none
    · cases none
    · rename_i fresh
      have unseen : a ∉ seen := by simpa using fresh
      obtain ⟨distinct, apart⟩ := ih none
      refine ⟨List.nodup_cons.mpr ⟨fun member => apart a member List.mem_cons_self, distinct⟩, ?_⟩
      intro b member
      rcases List.mem_cons.mp member with rfl | member
      · exact unseen
      · exact fun old => apart b member (List.mem_cons_of_mem _ old)

theorem Snapshot.Valid.nodeIds_nodup {s : Snapshot} (valid : s.Valid) : s.nodeIds.Nodup := by
  have checked := valid.references
  unfold problem? at checked
  cases repeated : firstRepeated? [] s.nodeIds with
  | none => exact (firstRepeated?_eq_none repeated).1
  | some id => rw [repeated] at checked; cases checked

namespace Graph

theorem new_well_formed {r : Registry} (built : r.Built) : Graph.new.WellFormed r := by
  have source := built.get?_builtin .source
  have localhost := built.get?_builtin .localhost
  have node_cases : ∀ n ∈ Graph.new.nodes, n = { id := sourceId, type := Builtin.source.nodeType } ∨
      n = { id := localhostId, type := Builtin.localhost.nodeType } := by
    intro n member
    simpa [new, insert] using member
  constructor
  case toSound =>
    constructor
    case ids => decide
    case types =>
      intro n member
      rcases node_cases n member with rfl | rfl
      · exact source
      · exact localhost
    case paired =>
      intro n member
      rcases node_cases n member with rfl | rfl <;> exact ⟨by decide, by decide⟩
    case connections => exact fun c member => absurd member List.not_mem_nil
    case outputs => exact List.nodup_nil
    case extensions =>
      intro n member id brought
      rcases node_cases n member with rfl | rfl <;> cases brought
  case source => decide
  case localhost => decide

theorem permanentType?_eq_some {id typeId : String} (permanent : permanentType? id = some typeId) :
    Paired id typeId := by
  unfold permanentType? at permanent
  split at permanent
  · rename_i source
    cases permanent
    rw [eq_of_beq source]
    exact ⟨by decide, by decide⟩
  · split at permanent
    · rename_i localhost
      cases permanent
      rw [eq_of_beq localhost]
      exact ⟨by decide, by decide⟩
    · cases permanent

theorem permanentType?_eq_none {id typeId : String} (none : permanentType? id = none)
    (free : isPermanentType typeId = false) : Paired id typeId := by
  have types : typeId ≠ sourceType ∧ typeId ≠ localhostType := by simpa [isPermanentType] using free
  have ids : id ≠ sourceId ∧ id ≠ localhostId := by
    unfold permanentType? at none
    split at none
    · cases none
    · split at none
      · cases none
      · rename_i source localhost
        exact ⟨by simpa using source, by simpa using localhost⟩
  exact ⟨iff_of_false types.1 ids.1, iff_of_false types.2 ids.2⟩

theorem addDocumented_ok {r : Registry} {g next : Graph} {n : SnapshotNode}
    (added : addDocumented r g n = .ok next) :
    Paired n.id n.typeId ∧ ∃ type, r.get? n.typeId = some type ∧
      next = g.insert { id := n.id, type, params := n.params, position := n.position } := by
  unfold addDocumented at added
  have paired : Paired n.id n.typeId := by
    cases permanent : permanentType? n.id with
    | some expected =>
      by_cases type : n.typeId = expected
      · exact type ▸ permanentType?_eq_some permanent
      · simp only [permanent, bne_iff_ne, ne_eq, type, not_false_eq_true, if_true] at added
        cases added
    | none =>
      cases type : isPermanentType n.typeId with
      | true =>
        simp only [permanent, type, if_true] at added
        cases added
      | false => exact permanentType?_eq_none permanent type
  refine ⟨paired, ?_⟩
  cases found : r.get? n.typeId with
  | none =>
    simp only [found] at added
    split at added <;> split at added <;> cases added
  | some type =>
    simp only [found] at added
    refine ⟨type, rfl, ?_⟩
    split at added <;> split at added <;> cases added <;> rfl

theorem addDocumented_fold {r : Registry} {nodes : List SnapshotNode} {g next : Graph}
    (sound : g.Sound r) (distinct : (nodes.map (·.id)).Nodup) (fresh : ∀ n ∈ nodes, n.id ∉ g.nodeIds)
    (added : nodes.foldlM (addDocumented r) g = .ok next) : next.Sound r := by
  induction nodes generalizing g with
  | nil =>
    cases added
    exact sound
  | cons n rest ih =>
    rw [List.foldlM_cons] at added
    cases first : addDocumented r g n with
    | error e => rw [first] at added; cases added
    | ok h =>
      rw [first] at added
      obtain ⟨paired, type, known, rfl⟩ := addDocumented_ok first
      have own := Registry.get?_typeId known
      obtain ⟨apart, distinct⟩ := List.nodup_cons.mp distinct
      let m : Node := { id := n.id, type, params := n.params, position := n.position }
      have grown : (g.insert m).Sound r := sound.insert (fresh n List.mem_cons_self) (own ▸ known) (own ▸ paired)
      refine ih grown distinct ?_ added
      intro m member
      rw [nodeIds_insert, List.mem_append, List.mem_singleton, not_or]
      refine ⟨fresh m (List.mem_cons_of_mem _ member), fun same => apart ?_⟩
      exact List.mem_map.mpr ⟨m, member, same⟩

theorem connectDocumented_ok {g next : Graph} {c : Connection} (made : connectDocumented g c = .ok next) :
    g.connect c = .ok next := by
  unfold connectDocumented at made
  cases outcome : g.connect c with
  | error e => rw [outcome] at made; cases made
  | ok h =>
    rw [outcome] at made
    cases made
    rfl

theorem connectDocumented_fold {r : Registry} {connections : List Connection} {g next : Graph}
    (wf : g.WellFormed r) (made : connections.foldlM connectDocumented g = .ok next) : next.WellFormed r := by
  induction connections generalizing g with
  | nil =>
    cases made
    exact wf
  | cons c rest ih =>
    rw [List.foldlM_cons] at made
    cases first : connectDocumented g c with
    | error e => rw [first] at made; cases made
    | ok h =>
      rw [first] at made
      obtain ⟨joins, free, rfl⟩ := connect_ok.mp (connectDocumented_ok first)
      exact ih ⟨wf.toSound.plugged joins free, wf.source, wf.localhost⟩ made

theorem start_sound (r : Registry) (extensions : List String) (metadata : Value) :
    ({ extensions, metadata } : Graph).Sound r where
  ids := List.nodup_nil
  types _ member := absurd member List.not_mem_nil
  paired _ member := absurd member List.not_mem_nil
  connections _ member := absurd member List.not_mem_nil
  outputs := List.nodup_nil
  extensions _ member := absurd member List.not_mem_nil

theorem ofSnapshot_well_formed {r : Registry} {s : Snapshot} {g : Graph} (valid : s.Valid)
    (opening : ofSnapshot r s = .ok g) : g.WellFormed r := by
  unfold ofSnapshot at opening
  cases filled : s.nodes.foldlM (addDocumented r)
      { extensions := s.extensions.eraseDups, metadata := .record s.metadata } with
  | error e =>
    simp only [filled] at opening
    cases opening
  | ok h =>
    simp only [filled, Bind.bind, Except.bind] at opening
    have sound := addDocumented_fold (start_sound r _ _) valid.nodeIds_nodup
      (fun _ _ member => absurd member List.not_mem_nil) filled
    split at opening
    · rename_i complete
      have present : ∀ id ∈ [sourceId, localhostId], id ∈ h.nodeIds := by
        intro id member
        have kept := List.filter_eq_nil_iff.mp complete id member
        exact contains_iff.mp (by simpa using kept)
      exact connectDocumented_fold ⟨sound, present _ (by simp), present _ (by simp)⟩ opening
    · cases opening

theorem WellFormed.change {r : Registry} {g next : Graph} (wf : g.WellFormed r) (change : Change r g next) :
    next.WellFormed r := by
  cases change with
  | kept k => exact { wf with }
  | inserted n k known free fresh =>
    have same : ({ g with nextId := k } : Graph).WellFormed r := { wf with }
    exact same.insert fresh known free
  | removed id free => exact wf.without free
  | plugged c joins free => exact ⟨wf.toSound.plugged joins free, wf.source, wf.localhost⟩
  | unplugged output => exact wf.unplugged output

theorem Reachable.well_formed {r : Registry} {g : Graph} (built : r.Built) (reachable : g.Reachable r) :
    g.WellFormed r := by
  induction reachable with
  | new => exact new_well_formed built
  | opened valid opening => exact ofSnapshot_well_formed valid opening
  | edited reachable e ih => exact ih.change (edit_change r _ e)

/-- After any edits, refused ones and ends of old drags among them, a graph is well formed; adding a node then
    puts exactly one node in, under an id that no node has. -/
theorem edits_keep_well_formed {r : Registry} {start : Graph} (built : r.Built) (reachable : start.Reachable r)
    (es : List Edit) :
    (start.edits r es).WellFormed r ∧
      ∀ typeId id? params position id,
        ((start.edits r es).add r typeId id? params position).2 = .ok id →
          id ∉ (start.edits r es).nodeIds ∧
            ∃ n, n.id = id ∧ n.type.typeId = typeId ∧
              ((start.edits r es).add r typeId id? params position).1.nodes = (start.edits r es).nodes ++ [n] ∧
              ((start.edits r es).add r typeId id? params position).1.connections =
                (start.edits r es).connections := by
  refine ⟨(reachable.edits es).well_formed built, ?_⟩
  intro typeId id? params position id success
  rcases (start.edits r es).add_cases r typeId id? params position with
    ⟨e, k, refused⟩ | ⟨n, k, added, known, free, fresh, -⟩
  · rw [refused] at success
    cases success
  · rw [added] at success ⊢
    cases success
    exact ⟨fresh, n, rfl, Registry.get?_typeId known, rfl, rfl⟩

def staleDrag : List Edit :=
  let c : Connection := ⟨⟨sourceId, "out"⟩, ⟨"node-0001", "in"⟩⟩
  [.add "core:drop" (some "node-0001") [] (.list [.int 0, .int 0]), .connect c, .beginDrag c.output,
    .remove "node-0001", .endDrag ⟨c.output, .output, some c⟩ c.input,
    .add "core:accept" (some "node-0001") [] (.list [.int 0, .int 0]),
    .endDrag ⟨c.output, .output, some c⟩ c.input]

theorem stale_drag_well_formed :
    (Graph.new.edits .builtin staleDrag).WellFormed .builtin ∧
      ((Graph.new.edits .builtin staleDrag).add .builtin "core:drop").2 = .ok "node-0002" ∧
      "node-0002" ∉ (Graph.new.edits .builtin staleDrag).nodeIds := by
  obtain ⟨wf, added⟩ := edits_keep_well_formed .builtin .new staleDrag
  have success : ((Graph.new.edits .builtin staleDrag).add .builtin "core:drop").2 = .ok "node-0002" := by rfl
  exact ⟨wf, success, (added _ _ _ _ _ success).1⟩

end Graph
end FilterGraph
