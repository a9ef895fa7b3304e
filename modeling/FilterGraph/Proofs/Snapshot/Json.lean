import FilterGraph.Proofs.Entries
import FilterGraph.Proofs.Outcome
import FilterGraph.Snapshot.Text

namespace FilterGraph

def Scalar.IsJson : Scalar → Prop
  | .null | .bool _ | .int _ | .text _ => True
  | .float x => x.isFinite = true
  | _ => False

namespace Value

mutual

/-- Data as JSON has it: scalars, lists, and maps whose keys are texts that differ. -/
def IsJson : Value → Prop
  | .scalar s => s.IsJson
  | .list items => AreJson items
  | .map entries => (entries.map (·.1)).Nodup ∧ HoldJson entries
  | _ => False

def AreJson : List Value → Prop
  | [] => True
  | item :: rest => IsJson item ∧ AreJson rest

def HoldJson : List (Scalar × Value) → Prop
  | [] => True
  | (key, value) :: rest => (∃ name, key = .text name) ∧ IsJson value ∧ HoldJson rest

end

mutual

def height : Value → Nat
  | .scalar _ => 1
  | .list items => heightItems items + 1
  | .tuple items => heightItems items + 1
  | .set items => min items.length 1 + 1
  | .map entries => heightEntries entries + 1
  | .named _ v => height v
  | .again _ => 1

def heightItems : List Value → Nat
  | [] => 0
  | item :: rest => max (height item) (heightItems rest)

def heightEntries : List (Scalar × Value) → Nat
  | [] => 0
  | (_, value) :: rest => max (height value) (heightEntries rest)

end

theorem within_eq (depth : Nat) : within depth = if depth ≤ depthLimit then .ok () else .error .tooDeep := by
  unfold within
  by_cases deep : depth ≤ depthLimit
  · rw [if_pos deep, if_neg (by omega)]
  · rw [if_neg deep, if_pos (by omega)]

theorem plain_scalar {s : Scalar} (json : s.IsJson) : s.plain = .ok s := by
  cases s with
  | float x =>
    have finite : x.isFinite = true := json
    simp [Scalar.plain, finite]
  | date d => exact json.elim
  | dateTime t => exact json.elim
  | bytes content => exact json.elim
  | null => rfl
  | bool b => rfl
  | int n => rfl
  | text s => rfl

theorem AreJson.mem {items : List Value} (json : AreJson items) : ∀ v ∈ items, v.IsJson := by
  induction items with
  | nil => nofun
  | cons item rest ih => exact List.forall_mem_cons.mpr ⟨json.1, ih json.2⟩

theorem HoldJson.mem {entries : List (Scalar × Value)} (json : HoldJson entries) :
    ∀ e ∈ entries, (∃ name, e.1 = .text name) ∧ e.2.IsJson := by
  induction entries with
  | nil => nofun
  | cons first rest ih => exact List.forall_mem_cons.mpr ⟨⟨json.1, json.2.1⟩, ih json.2.2⟩

theorem ofRepeated_json {entries : List (Scalar × Value)} (distinct : (entries.map (·.1)).Nodup)
    (json : HoldJson entries) : Entries.ofRepeated entries = entries := by
  have apart : entries.Pairwise fun a b => Scalar.sameKey a.1 b.1 = false := by
    refine (List.pairwise_map.mp distinct).imp_of_mem fun {a b} left right differ => ?_
    obtain ⟨⟨name, key⟩, -⟩ := json.mem a left
    obtain ⟨⟨other, key'⟩, -⟩ := json.mem b right
    rw [key, key'] at differ ⊢
    simpa [Scalar.sameKey, Scalar.number?, Scalar.instant?] using differ
  exact @Entries.foldl_setBy _ _ _ [] _ apart

/-- A collection is written where its own place and what is in it are not too deep. -/
theorem within_collection {α β : Type} {depth inner : Nat} {content : Except Unwritable α} {a : α} (f : α → β)
    (written : depth ≤ depthLimit → content = if depth + 1 + inner ≤ depthLimit + 1 then .ok a else .error .tooDeep) :
    (within depth >>= fun _ => content >>= fun x => .ok (f x)) =
      if depth + (inner + 1) ≤ depthLimit + 1 then .ok (f a) else .error .tooDeep := by
  rw [within_eq]
  by_cases room : depth ≤ depthLimit
  · rw [if_pos room, written room]
    by_cases deeper : depth + 1 + inner ≤ depthLimit + 1
    · rw [if_pos deeper, if_pos (by omega)]
      rfl
    · rw [if_neg deeper, if_neg (by omega)]
      rfl
  · rw [if_neg room, if_neg (by omega)]
    rfl

section Plain

variable {depth : Nat} (room : depth ≤ depthLimit + 1)

include room

theorem plainItems_eq {items : List Value}
    (each : ∀ v ∈ items, v.plainAt depth = if depth + v.height ≤ depthLimit + 1 then .ok v else .error .tooDeep) :
    plainItems depth items =
      if depth + heightItems items ≤ depthLimit + 1 then .ok items else .error .tooDeep := by
  induction items with
  | nil => rw [plainItems, heightItems, if_pos (by omega)]
  | cons item rest ih =>
    obtain ⟨first, others⟩ := List.forall_mem_cons.mp each
    have room' : depth + max item.height (heightItems rest) ≤ depthLimit + 1 ↔
        depth + item.height ≤ depthLimit + 1 ∧ depth + heightItems rest ≤ depthLimit + 1 := by omega
    rw [plainItems, heightItems, first, ih others]
    simp only [room']
    exact bind_guarded item rest Unwritable.tooDeep List.cons

theorem plainEntries_eq {entries : List (Scalar × Value)} (json : HoldJson entries)
    (each : ∀ e ∈ entries, e.2.plainAt depth = if depth + e.2.height ≤ depthLimit + 1 then .ok e.2 else .error .tooDeep) :
    plainEntries depth entries =
      if depth + heightEntries entries ≤ depthLimit + 1 then .ok entries else .error .tooDeep := by
  induction entries with
  | nil => rw [plainEntries, heightEntries, if_pos (by omega)]
  | cons entry rest ih =>
    obtain ⟨key, value⟩ := entry
    obtain ⟨⟨name, rfl⟩, -, json⟩ := json
    obtain ⟨first, others⟩ := List.forall_mem_cons.mp each
    have room' : depth + max value.height (heightEntries rest) ≤ depthLimit + 1 ↔
        depth + value.height ≤ depthLimit + 1 ∧ depth + heightEntries rest ≤ depthLimit + 1 := by omega
    rw [plainEntries, heightEntries, first, ih json others]
    simp only [room']
    exact bind_guarded value rest Unwritable.tooDeep fun value rest => (Scalar.text name, value) :: rest

end Plain

/-- At some depth a JSON value is written as it is when the limit leaves room for its height. -/
theorem plainAt_json (v : Value) (json : v.IsJson) (depth : Nat) :
    v.plainAt depth = if depth + v.height ≤ depthLimit + 1 then .ok v else .error .tooDeep := by
  match v with
  | .scalar s =>
    rw [plainAt, within_eq, height, plain_scalar json]
    by_cases room : depth ≤ depthLimit
    · rw [if_pos room, if_pos (by omega)]
      rfl
    · rw [if_neg room, if_neg (by omega)]
      rfl
  | .list items =>
    have each : ∀ v ∈ items, v.plainAt (depth + 1) =
        if depth + 1 + v.height ≤ depthLimit + 1 then .ok v else .error .tooDeep :=
      fun v member => plainAt_json v (json.mem v member) (depth + 1)
    rw [plainAt, height]
    exact within_collection Value.list fun room => plainItems_eq (Nat.succ_le_succ room) each
  | .map entries =>
    have each : ∀ e ∈ entries, e.2.plainAt (depth + 1) =
        if depth + 1 + e.2.height ≤ depthLimit + 1 then .ok e.2 else .error .tooDeep :=
      fun e member => plainAt_json e.2 (json.2.mem e member).2 (depth + 1)
    have written := within_collection (fun entries => Value.map (Entries.ofRepeated entries)) fun room =>
      plainEntries_eq (Nat.succ_le_succ room) json.2 each
    -- Keys are written as they are, so none is taken up twice and the entries keep their places.
    rw [ofRepeated_json json.1 json.2] at written
    rw [plainAt, height]
    exact written
  | .tuple items => exact json.elim
  | .set items => exact json.elim
  | .named name v => exact json.elim
  | .again name => exact json.elim
termination_by sizeOf v
decreasing_by
  all_goals simp_wf
  · have less := List.sizeOf_lt_of_mem member
    omega
  · have less := List.sizeOf_lt_of_mem member
    have inner : sizeOf e.2 < sizeOf e := by
      obtain ⟨key, value⟩ := e
      rw [Prod.mk.sizeOf_spec]
      dsimp only
      omega
    omega

end Value

namespace Params

structure IsJson (params : Params) : Prop where
  distinct : (params.map (·.1)).Nodup
  values : ∀ e ∈ params, e.2.IsJson

theorem IsJson.nil : IsJson [] := ⟨List.nodup_nil, fun _ member => absurd member List.not_mem_nil⟩

def Shallow (params : Params) : Prop := ∀ e ∈ params, e.2.height ≤ Value.depthLimit

instance (params : Params) : Decidable params.Shallow := inferInstanceAs (Decidable (∀ e ∈ params, _))

theorem mapM_plain {params : Params} (values : ∀ e ∈ params, e.2.IsJson) :
    params.mapM (fun (name, value) => do return (name, ← value.plain)) =
      (if params.Shallow then .ok params else .error .tooDeep : Except Unwritable Params) := by
  induction params with
  | nil => rfl
  | cons first rest ih =>
    obtain ⟨name, value⟩ := first
    obtain ⟨json, others⟩ := List.forall_mem_cons.mp values
    have plain : value.plain = if value.height ≤ Value.depthLimit then .ok value else .error .tooDeep := by
      rw [Value.plain, Value.plainAt_json value json, Nat.add_comm]
      simp only [Nat.add_le_add_iff_right]
    have shallow : Shallow ((name, value) :: rest) ↔ value.height ≤ Value.depthLimit ∧ Shallow rest :=
      List.forall_mem_cons
    simp only [List.mapM_cons, ih others, plain, shallow, bind_assoc, pure_bind]
    exact bind_guarded value rest Unwritable.tooDeep fun value rest => (name, value) :: rest

theorem plain_json {params : Params} (json : params.IsJson) :
    params.plain = if params.Shallow then .ok (.record params) else .error .tooDeep := by
  rw [plain, mapM_plain json.values]
  split <;> rfl

end Params
end FilterGraph
