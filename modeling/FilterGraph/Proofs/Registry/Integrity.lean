import FilterGraph.Proofs.Graph.Authored
import FilterGraph.Proofs.Sorting

namespace FilterGraph.Registry

inductive Call where
  | register (t : NodeType)
  | load (b : Bundle)

inductive Answer where
  | registered
  | loaded (isNew : Bool)
  deriving DecidableEq, Repr

inductive Refusal where
  | type (e : RegistryError)
  | extension (e : ExtensionError)
  deriving DecidableEq, Repr

def call (r : Registry) : Call → Registry × Except Refusal Answer
  | .register t =>
    match r.register t with
    | .ok next => (next, .ok .registered)
    | .error e => (r, .error (.type e))
  | .load b =>
    match r.load b with
    | .ok (next, isNew) => (next, .ok (.loaded isNew))
    | .error e => (r, .error (.extension e))

def calls (r : Registry) (cs : List Call) : Registry := cs.foldl (fun r c => (r.call c).1) r

def Clashes (r : Registry) (b : Bundle) (id : String) : Prop :=
  (id ∈ b.types.map (·.typeId) ∧ id ∈ r.typeIds) ∨ 2 ≤ (b.types.map (·.typeId)).count id

theorem mem_repeated {known ids : List String} {id : String} :
    id ∈ repeated known ids ↔ (id ∈ ids ∧ id ∈ known) ∨ 2 ≤ ids.count id := by
  induction ids generalizing known with
  | nil => simp [repeated]
  | cons first rest ih =>
    have counted : 0 < rest.count id ↔ id ∈ rest := List.count_pos_iff
    rw [repeated]
    by_cases same : id = first
    · subst same
      split
      case isTrue found => simp [List.mem_of_elem_eq_true found]
      case isFalse missing =>
        have fresh : id ∉ known := by simpa using missing
        rw [ih, List.count_cons_self, ← counted]
        simp only [List.mem_cons, true_or, fresh, and_false, false_or, and_true]
        omega
    · split
      · simp [ih, same, List.count_cons_of_ne (Ne.symm same)]
      · simp [ih, same, List.count_cons_of_ne (Ne.symm same)]

theorem mem_clashes {r : Registry} {b : Bundle} {id : String} : id ∈ r.clashes b ↔ r.Clashes b id := by
  rw [clashes, (List.mergeSort_perm _ _).mem_iff, List.mem_eraseDups, mem_repeated, Clashes]

theorem clashes_sorted (r : Registry) (b : Bundle) : (r.clashes b).Pairwise (· < ·) := sort_strict (eraseDups_nodup _)

theorem clashes_eq_nil {r : Registry} {b : Bundle} : r.clashes b = [] ↔
    (b.types.map (·.typeId)).Nodup ∧ ∀ t ∈ b.types, t.typeId ∉ r.typeIds := by
  rw [List.eq_nil_iff_forall_not_mem]
  simp only [mem_clashes, Clashes, not_or, not_and, not_le]
  constructor
  · intro none
    refine ⟨List.nodup_iff_count_le_one.mpr fun id => Nat.lt_succ_iff.mp (none id).2, fun t member => ?_⟩
    exact (none t.typeId).1 (List.mem_map_of_mem member)
  · rintro ⟨distinct, fresh⟩ id
    refine ⟨fun listed => ?_, Nat.lt_succ_iff.mpr (List.nodup_iff_count_le_one.mp distinct id)⟩
    obtain ⟨t, member, rfl⟩ := List.mem_map.mp listed
    exact fresh t member

theorem load_of_new {r : Registry} {b : Bundle} (missing : r.extensions.get? b.id = none) (clear : r.clashes b = []) :
    r.load b = .ok (⟨r.types ++ b.types, r.extensions ++ [(b.id, b.fingerprint)]⟩, true) := by
  simp only [load, missing, clear]

/-- A load finds the bundle, or another one of its id, or brings it in, or refuses it. -/
theorem load_cases (r : Registry) (b : Bundle) :
    (r.extensions.get? b.id = some b.fingerprint ∧ r.load b = .ok (r, false)) ∨
      (r.hasExtension b.id = true ∧ r.extensions.get? b.id ≠ some b.fingerprint ∧
        r.load b = .error (.conflict b.id [])) ∨
      (r.hasExtension b.id = false ∧ r.clashes b = [] ∧
        r.load b = .ok (⟨r.types ++ b.types, r.extensions ++ [(b.id, b.fingerprint)]⟩, true)) ∨
      r.hasExtension b.id = false ∧ r.clashes b ≠ [] ∧ r.load b = .error (.conflict b.id (r.clashes b)) := by
  unfold hasExtension
  cases known : r.extensions.get? b.id with
  | some fingerprint =>
    by_cases same : fingerprint = b.fingerprint
    · exact .inl ⟨congrArg some same, by simp only [load, known, same, beq_self_eq_true, if_true]⟩
    · have other : (fingerprint == b.fingerprint) = false := beq_false_of_ne same
      refine .inr (.inl ⟨rfl, fun found => same (Option.some.inj found), ?_⟩)
      simp only [load, known, other, Bool.false_eq_true, if_false]
  | none =>
    cases clashing : r.clashes b with
    | nil => exact .inr (.inr (.inl ⟨rfl, rfl, by simp only [load, known, clashing]⟩))
    | cons first rest =>
      exact .inr (.inr (.inr ⟨rfl, List.cons_ne_nil _ _, by simp only [load, known, clashing]⟩))

theorem mem_typeIds {r : Registry} {typeId : String} : typeId ∈ r.typeIds ↔ ∃ t ∈ r.types, t.typeId = typeId :=
  List.mem_map

theorem get?_eq_none {r : Registry} {typeId : String} : r.get? typeId = none ↔ typeId ∉ r.typeIds := by
  simp only [get?, List.find?_eq_none, mem_typeIds, beq_iff_eq, not_exists, not_and]

theorem get?_of_mem {r : Registry} (distinct : r.typeIds.Nodup) {t : NodeType} (member : t ∈ r.types) :
    r.get? t.typeId = some t := by
  cases found : r.get? t.typeId with
  | none => exact absurd (mem_typeIds.mpr ⟨t, member, rfl⟩) (get?_eq_none.mp found)
  | some known =>
    have same := get?_typeId found
    rw [List.inj_on_of_nodup_map distinct (List.mem_of_find?_eq_some found) member same]

theorem resolve_eq_ok {r : Registry} {typeId : String} {t : NodeType} :
    r.resolve typeId = .ok t ↔ r.get? typeId = some t := by
  unfold resolve
  cases r.get? typeId <;> simp

/-- What one registry has, the other one has in the same places. -/
structure Extends (r next : Registry) : Prop where
  types : r.types <+: next.types
  extensions : r.extensions <+: next.extensions

theorem Extends.refl (r : Registry) : r.Extends r := ⟨List.prefix_rfl, List.prefix_rfl⟩

theorem Extends.trans {r next last : Registry} (first : r.Extends next) (second : next.Extends last) : r.Extends last :=
  ⟨first.types.trans second.types, first.extensions.trans second.extensions⟩

section Extends

variable {r next : Registry} (more : r.Extends next)

include more

theorem Extends.get? {typeId : String} {t : NodeType} (found : r.get? typeId = some t) : next.get? typeId = some t := by
  obtain ⟨added, types⟩ := more.types
  unfold Registry.get? at found ⊢
  rw [← types, List.find?_append, found, Option.some_or]

theorem Extends.fingerprint {id fingerprint : String} (found : r.extensions.get? id = some fingerprint) :
    next.extensions.get? id = some fingerprint := by
  obtain ⟨added, extensions⟩ := more.extensions
  unfold Entries.get? at found ⊢
  rw [← extensions, List.lookup_append, found, Option.some_or]

end Extends

theorem call_cases (r : Registry) (c : Call) :
    (∃ e, r.call c = (r, .error e)) ∨
      (∃ b, c = .load b ∧ r.extensions.get? b.id = some b.fingerprint ∧ r.call c = (r, .ok (.loaded false))) ∨
      (∃ t, c = .register t ∧ t.typeId ∉ r.typeIds ∧
        r.call c = ({ r with types := r.types ++ [t] }, .ok .registered)) ∨
      ∃ b, c = .load b ∧ r.hasExtension b.id = false ∧ r.clashes b = [] ∧
        r.call c = (⟨r.types ++ b.types, r.extensions ++ [(b.id, b.fingerprint)]⟩, .ok (.loaded true)) := by
  cases c with
  | register t =>
    by_cases known : t.typeId ∈ r.typeIds
    · have present : r.contains t.typeId = true := List.elem_eq_true_of_mem known
      exact .inl ⟨.type (.duplicateType t.typeId), by simp only [call, register, present, if_true]⟩
    · have absent : r.contains t.typeId = false := by simpa [contains] using known
      refine .inr (.inr (.inl ⟨t, rfl, known, ?_⟩))
      simp only [call, register, absent, Bool.false_eq_true, if_false]
  | load b =>
    rcases load_cases r b with ⟨same, here⟩ | ⟨-, -, other⟩ | ⟨absent, clear, brought⟩ | ⟨-, -, clash⟩
    · exact .inr (.inl ⟨b, rfl, same, by simp only [call, here]⟩)
    · exact .inl ⟨.extension (.conflict b.id []), by simp only [call, other]⟩
    · exact .inr (.inr (.inr ⟨b, rfl, absent, clear, by simp only [call, brought]⟩))
    · exact .inl ⟨.extension (.conflict b.id (r.clashes b)), by simp only [call, clash]⟩

theorem call_extends (r : Registry) (c : Call) : r.Extends (r.call c).1 := by
  rcases call_cases r c with ⟨e, refused⟩ | ⟨b, -, -, here⟩ | ⟨t, -, -, registered⟩ | ⟨b, -, -, -, brought⟩
  · exact refused ▸ .refl r
  · exact here ▸ .refl r
  · exact registered ▸ ⟨List.prefix_append _ _, List.prefix_rfl⟩
  · exact brought ▸ ⟨List.prefix_append _ _, List.prefix_append _ _⟩

theorem call_distinct {r : Registry} (distinct : r.typeIds.Nodup) (c : Call) : (r.call c).1.typeIds.Nodup := by
  rcases call_cases r c with ⟨e, refused⟩ | ⟨b, -, -, here⟩ | ⟨t, -, fresh, registered⟩ | ⟨b, -, -, clear, brought⟩
  · exact refused ▸ distinct
  · exact here ▸ distinct
  · rw [registered, typeIds, List.map_append]
    refine distinct.append (List.nodup_singleton _) fun id old new => ?_
    cases List.mem_singleton.mp new
    exact fresh old
  · obtain ⟨apart, fresh⟩ := clashes_eq_nil.mp clear
    rw [brought, typeIds, List.map_append]
    refine distinct.append apart fun id old new => ?_
    obtain ⟨t, member, rfl⟩ := List.mem_map.mp new
    exact fresh t member old

theorem call_refused {r : Registry} {c : Call} {e : Refusal} (refused : (r.call c).2 = .error e) :
    (r.call c).1 = r := by
  rcases call_cases r c with ⟨_, same⟩ | ⟨_, -, -, same⟩ | ⟨_, -, -, same⟩ | ⟨_, -, -, -, same⟩
  · rw [same]
  all_goals
    rw [same] at refused
    cases refused

theorem call_brought {r : Registry} {b : Bundle} (loaded : (r.call (.load b)).2 = .ok (.loaded true)) :
    (r.call (.load b)).1.types = r.types ++ b.types ∧ (b.types.map (·.typeId)).Nodup ∧
      ∀ t ∈ b.types, t.typeId ∉ r.typeIds := by
  rcases call_cases r (.load b) with ⟨_, same⟩ | ⟨_, -, -, same⟩ | ⟨_, other, -⟩ | ⟨_, here, -, clear, same⟩
  · rw [same] at loaded
    cases loaded
  · rw [same] at loaded
    cases loaded
  · cases other
  · cases here
    rw [same]
    exact ⟨rfl, clashes_eq_nil.mp clear⟩

theorem call_fingerprint {r : Registry} {b : Bundle} {isNew : Bool}
    (loaded : (r.call (.load b)).2 = .ok (.loaded isNew)) :
    (r.call (.load b)).1.extensions.get? b.id = some b.fingerprint := by
  rcases call_cases r (.load b) with ⟨_, same⟩ | ⟨_, here, found, same⟩ | ⟨_, other, -⟩ | ⟨_, here, absent, -, same⟩
  · rw [same] at loaded
    cases loaded
  · cases here
    rw [same]
    exact found
  · cases other
  · cases here
    have none : r.extensions.get? b.id = none := by simpa [hasExtension] using absent
    unfold Entries.get? at none ⊢
    rw [same, List.lookup_append, none]
    simp

theorem call_known {r : Registry} {b : Bundle} (found : r.extensions.get? b.id = some b.fingerprint) :
    r.call (.load b) = (r, .ok (.loaded false)) := by
  rcases load_cases r b with ⟨-, here⟩ | ⟨-, other, -⟩ | ⟨absent, -⟩ | ⟨absent, -⟩
  · simp only [call, here]
  · exact absurd found other
  all_goals
    rw [hasExtension, found] at absent
    cases absent

theorem call_conflict {r : Registry} {b : Bundle} {e : Refusal} (refused : (r.call (.load b)).2 = .error e) :
    ∃ typeIds, e = .extension (.conflict b.id typeIds) ∧ (r.hasExtension b.id = true → typeIds = []) ∧
      (r.hasExtension b.id = false → typeIds ≠ [] ∧ typeIds.Pairwise (· < ·) ∧
        ∀ id, id ∈ typeIds ↔ r.Clashes b id) := by
  rcases load_cases r b with ⟨-, same⟩ | ⟨known, -, same⟩ | ⟨-, -, same⟩ | ⟨absent, clashing, same⟩ <;>
    simp only [call, same] at refused <;> cases refused
  · exact ⟨[], rfl, fun _ => rfl, fun absent => absurd (known.symm.trans absent) (by decide)⟩
  · refine ⟨_, rfl, fun known => absurd (known.symm.trans absent) (by decide), fun _ => ⟨clashing, ?_⟩⟩
    exact ⟨clashes_sorted r b, fun id => mem_clashes⟩

section Runs

variable (r : Registry) (cs : List Call)

theorem calls_append (more : List Call) : r.calls (cs ++ more) = (r.calls cs).calls more := List.foldl_append

theorem calls_extends : r.Extends (r.calls cs) := by
  induction cs generalizing r with
  | nil => exact .refl r
  | cons c rest ih => exact (call_extends r c).trans (ih _)

theorem calls_distinct (distinct : r.typeIds.Nodup) : (r.calls cs).typeIds.Nodup := by
  induction cs generalizing r with
  | nil => exact distinct
  | cons c rest ih => exact ih _ (call_distinct distinct c)

def Loads (b : Bundle) (isNew : Bool) : Prop :=
  ∃ before after, cs = before ++ .load b :: after ∧ ((r.calls before).call (.load b)).2 = .ok (.loaded isNew)

variable {r cs}

theorem Loads.extends {b : Bundle} {isNew : Bool} (loads : r.Loads cs b isNew) : ∃ before,
    ((r.calls before).call (.load b)).2 = .ok (.loaded isNew) ∧
      ((r.calls before).call (.load b)).1.Extends (r.calls cs) := by
  obtain ⟨before, after, rfl, loaded⟩ := loads
  refine ⟨before, loaded, ?_⟩
  rw [calls_append]
  exact calls_extends _ after

theorem Loads.get? (distinct : r.typeIds.Nodup) {b : Bundle} (loads : r.Loads cs b true) {t : NodeType}
    (member : t ∈ b.types) : (r.calls cs).get? t.typeId = some t := by
  obtain ⟨before, loaded, more⟩ := loads.extends
  have apart := call_distinct (calls_distinct r before distinct) (.load b)
  have brought := (call_brought loaded).1
  exact more.get? (get?_of_mem apart (brought ▸ List.mem_append_right _ member))

theorem Loads.fingerprint {b : Bundle} {isNew : Bool} (loads : r.Loads cs b isNew) :
    (r.calls cs).extensions.get? b.id = some b.fingerprint := by
  obtain ⟨before, loaded, more⟩ := loads.extends
  exact more.fingerprint (call_fingerprint loaded)

end Runs

/-- What holds of the registry that a run of calls makes of the built-in one, and of the next call. -/
structure Integrity (cs : List Call) (r : Registry) : Prop where
  distinct : r.typeIds.Nodup
  refused : ∀ c e, (r.call c).2 = .error e → (r.call c).1.types = r.types ∧ (r.call c).1.extensions = r.extensions
  kept : ∀ c typeId t, r.resolve typeId = .ok t → (r.call c).1.resolve typeId = .ok t
  brought : ∀ b, (r.call (.load b)).2 = .ok (.loaded true) → (r.call (.load b)).1.types = r.types ++ b.types ∧
    (b.types.map (·.typeId)).Nodup ∧ ∀ t ∈ b.types, t.typeId ∉ r.typeIds
  conflict : ∀ b e, (r.call (.load b)).2 = .error e → ∃ typeIds, e = .extension (.conflict b.id typeIds) ∧
    (r.hasExtension b.id = true → typeIds = []) ∧
    (r.hasExtension b.id = false → typeIds ≠ [] ∧ typeIds.Pairwise (· < ·) ∧ ∀ id, id ∈ typeIds ↔ r.Clashes b id)
  stays : ∀ b, builtin.Loads cs b true → ∀ t ∈ b.types, r.resolve t.typeId = .ok t
  again : ∀ b isNew, builtin.Loads cs b isNew → r.call (.load b) = (r, .ok (.loaded false))

theorem calls_integrity (cs : List Call) : Integrity cs (builtin.calls cs) := by
  have apart : builtin.typeIds.Nodup := by decide
  constructor
  case distinct => exact calls_distinct builtin cs apart
  case refused =>
    intro c e refused
    rw [call_refused refused]
    exact ⟨rfl, rfl⟩
  case kept =>
    intro c typeId t found
    exact resolve_eq_ok.mpr ((call_extends _ c).get? (resolve_eq_ok.mp found))
  case brought => exact fun b loaded => call_brought loaded
  case conflict => exact fun b e refused => call_conflict refused
  case stays => exact fun b loads t member => resolve_eq_ok.mpr (loads.get? apart member)
  case again => exact fun b isNew loads => call_known loads.fingerprint

def ownDrop (shown : String) : Bundle :=
  { id := "lab", fingerprint := shown
    types := [{ Builtin.drop.nodeType with typeId := "lab:sink", displayName := shown, extension? := some "lab" }] }

theorem reworded_names_no_type :
    let r := builtin.calls [.load (ownDrop "Drop")]
    (r.call (.load (ownDrop "Sink"))).2 = .error (.extension (.conflict "lab" [])) ∧
      ¬ ∀ id, id ∈ ([] : List String) ↔ r.Clashes (ownDrop "Sink") id := by
  intro r
  have loaded : r = ⟨builtin.types ++ (ownDrop "Drop").types, [("lab", "Drop")]⟩ := by
    have clear : builtin.clashes (ownDrop "Drop") = [] := clashes_eq_nil.mpr (by decide)
    simp only [r, calls, List.foldl_cons, List.foldl_nil, call, load, clear]
    rfl
  rw [loaded]
  refine ⟨rfl, fun exactly => ?_⟩
  have clashing := (exactly "lab:sink").mpr (.inl ⟨by decide, by decide⟩)
  exact absurd clashing List.not_mem_nil

end FilterGraph.Registry
