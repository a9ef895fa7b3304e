import FilterGraph.Graph.File
import FilterGraph.Proofs.Entries
import FilterGraph.Proofs.Graph.Reachable
import FilterGraph.Proofs.Outcome

namespace FilterGraph

namespace Checked

theorem both_ok {α β : Type} {a : Checked α} {b : Checked β} {x : α} {y : β} :
    both a b = .ok (x, y) ↔ a = .ok x ∧ b = .ok y := by
  cases a <;> cases b <;> simp [both]

theorem apply_ok {α β : Type} {a : Checked α} {f : Checked (α → β)} {y : β} (applied : apply a f = .ok y) :
    ∃ x g, a = .ok x ∧ f = .ok g ∧ y = g x := by
  unfold apply at applied
  cases pair : both f a with
  | error e => rw [pair] at applied; cases applied
  | ok result =>
    obtain ⟨g, x⟩ := result
    obtain ⟨made, given⟩ := both_ok.mp pair
    rw [pair] at applied
    cases applied
    exact ⟨x, g, given, made, rfl⟩

theorem andAlso_ok {α : Type} {a : Checked α} {b : Checked Unit} {x : α} (checked : andAlso a b = .ok x) :
    a = .ok x := by
  unfold andAlso at checked
  cases pair : both a b with
  | error e => rw [pair] at checked; cases checked
  | ok result =>
    rw [pair] at checked
    cases checked
    exact (both_ok.mp pair).1

theorem under_ok {α : Type} {step : Step} {a : Checked α} {x : α} (checked : under step a = .ok x) :
    a = .ok x := by
  cases a with
  | error e => cases checked
  | ok y => exact checked

theorem all_ok {α : Type} {cs : List (Checked α)} {as : List α} (checked : all cs = .ok as) :
    ∀ a ∈ as, .ok a ∈ cs := by
  induction cs generalizing as with
  | nil =>
    cases checked
    exact fun a member => absurd member List.not_mem_nil
  | cons c rest ih =>
    unfold all at checked
    cases pair : both c (all rest) with
    | error e => rw [pair] at checked; cases checked
    | ok result =>
      obtain ⟨first, others⟩ := result
      obtain ⟨head, tail⟩ := both_ok.mp pair
      rw [pair] at checked
      cases checked
      intro a member
      rcases List.mem_cons.mp member with rfl | member
      · exact head ▸ List.mem_cons_self
      · exact List.mem_cons_of_mem _ (ih tail a member)

theorem list_ok {α : Type} {item : Value → Checked α} {v : Value} {as : List α} (checked : list item v = .ok as) :
    ∀ a ∈ as, ∃ v, item v = .ok a := by
  unfold list at checked
  split at checked
  · intro a member
    obtain ⟨⟨v, i⟩, -, passed⟩ := List.mem_map.mp (all_ok checked a member)
    exact ⟨v, under_ok passed⟩
  · cases checked

theorem required_ok {α : Type} {name : String} {item : Value → Checked α} {entries : List (Scalar × Value)}
    {a : α} (checked : required name item entries = .ok a) : ∃ v, item v = .ok a := by
  have found := under_ok checked
  split at found
  · rename_i v _
    exact ⟨v, found⟩
  · cases found

theorem record_ok {α : Type} {fields : List (Scalar × Value) → Checked α} {v : Value} {a : α}
    (checked : record fields v = .ok a) : ∃ entries, fields entries = .ok a := by
  unfold record at checked
  split at checked
  · rename_i entries _
    exact ⟨entries, checked⟩
  · cases checked

theorem matching_ok {pattern : List Char → Bool} {v : Value} {s : String} (checked : matching pattern v = .ok s) :
    pattern s.toList = true := by
  unfold matching at checked
  obtain ⟨t, -, checked⟩ := bind_ok checked
  split at checked
  · rename_i matched
    cases checked
    exact matched
  · cases checked

theorem dict_ok {α : Type} {item : Value → Checked α} {v : Value} {fields : Entries String α}
    (read : dict item v = .ok fields) : (fields.map (·.1)).Nodup ∧ ∀ e ∈ fields, ∃ v, item v = .ok e.2 := by
  unfold dict at read
  split at read
  · obtain ⟨found, passed, rfl⟩ := map_ok read
    have distinct := Entries.keys_foldl_set found [] List.nodup_nil
    refine ⟨distinct, fun e member => ?_⟩
    obtain ⟨⟨key, v⟩, -, checked⟩ := List.mem_map.mp (all_ok passed e (Entries.mem_foldl_set member))
    exact ⟨v, (both_ok.mp (under_ok checked)).2⟩
  · cases read

theorem defaulted_ok {α : Type} {name : String} {item : Value → Checked α} {default a : α}
    {entries : List (Scalar × Value)} (read : defaulted name item default entries = .ok a) :
    (∃ v, item v = .ok a) ∨ a = default := by
  have found := under_ok read
  split at found
  · rename_i v _
    exact Or.inl ⟨v, found⟩
  · cases found
    exact Or.inr rfl

theorem ensure_ok {α : Type} {problem? : α → Option String} {a b : α} (checked : ensure problem? a = .ok b) :
    b = a ∧ problem? a = none := by
  unfold ensure at checked
  split at checked
  · rename_i clear
    cases checked
    exact ⟨rfl, clear⟩
  · cases checked

end Checked

open Checked

theorem SnapshotNode.check_id {v : Value} {n : SnapshotNode} (checked : SnapshotNode.check v = .ok n) :
    isNodeId n.id.toList = true := by
  obtain ⟨entries, fields⟩ := record_ok checked
  obtain ⟨position, withParams, -, paramsRead, rfl⟩ := apply_ok (andAlso_ok fields)
  obtain ⟨params, withType, -, typeRead, rfl⟩ := apply_ok paramsRead
  obtain ⟨typeId, withId, -, idRead, rfl⟩ := apply_ok typeRead
  obtain ⟨id, make, named, start, rfl⟩ := apply_ok idRead
  cases start
  obtain ⟨text, matched⟩ := required_ok named
  exact matching_ok matched

theorem Snapshot.check_valid {v : Value} {s : Snapshot} (checked : Snapshot.check v = .ok s) : s.Valid := by
  obtain ⟨read, reading, ensured⟩ := bind_ok checked
  obtain ⟨rfl, references⟩ := ensure_ok ensured
  obtain ⟨entries, fields⟩ := record_ok reading
  obtain ⟨metadata, withExtensions, -, extensionsRead, rfl⟩ := apply_ok (andAlso_ok fields)
  obtain ⟨extensions, withConnections, -, connectionsRead, rfl⟩ := apply_ok extensionsRead
  obtain ⟨connections, withNodes, -, nodesRead, rfl⟩ := apply_ok connectionsRead
  obtain ⟨nodes, withVersion, listed, versionRead, rfl⟩ := apply_ok nodesRead
  obtain ⟨version, make, -, start, rfl⟩ := apply_ok versionRead
  cases start
  refine ⟨?_, references⟩
  intro n member
  obtain ⟨list, passed⟩ := required_ok listed
  obtain ⟨item, accepted⟩ := list_ok passed n member
  exact SnapshotNode.check_id accepted

namespace Registry

theorem loadFrom_built {r : Registry} (built : r.Built) (l : Loader) (t : FileTree) (id : String) :
    (r.loadFrom l t id).registry.Built := by
  simp only [loadFrom]
  split
  · exact built
  · split
    · exact built
    · rename_i next isNew loading
      exact .loaded built loading

theorem require_built {r : Registry} (built : r.Built) (loader? : Option Loader) (t : FileTree)
    (ids : List String) : (r.require loader? t ids).registry.Built := by
  induction ids generalizing r with
  | nil => exact built
  | cons id rest ih =>
    unfold require
    split
    · exact ih built
    · cases loader? with
      | none => exact built
      | some l =>
        have grown := loadFrom_built built l t id
        cases failed : (r.loadFrom l t id).failure? with
        | some e => simpa only [failed] using grown
        | none => simpa only [failed] using ih grown

end Registry

namespace Graph

theorem openSnapshot_reachable {r : Registry} {loader? : Option Loader} {t : FileTree} {s : Snapshot} {g : Graph}
    (valid : s.Valid) (opened : (openSnapshot r loader? t s).outcome = .ok g) :
    g.Reachable (openSnapshot r loader? t s).registry := by
  unfold openSnapshot at opened ⊢
  cases failed : (r.require loader? t s.extensions).failure? with
  | some e => simp only [failed] at opened; cases opened
  | none =>
    simp only [failed] at opened
    exact .opened valid opened

/-- A graph that opens from data is one of the graphs over the registry with the extensions it needed. -/
theorem openValue_reachable {r : Registry} (built : r.Built) {loader? : Option Loader} {t : FileTree} {v : Value}
    {g : Graph} (opened : (openValue r loader? t v).outcome = .ok g) :
    (openValue r loader? t v).registry.Built ∧ g.Reachable (openValue r loader? t v).registry := by
  unfold openValue at opened ⊢
  cases checked : Snapshot.check v with
  | error issues => simp only [checked] at opened; cases opened
  | ok s =>
    simp only [checked] at opened
    exact ⟨Registry.require_built built loader? t s.extensions,
      openSnapshot_reachable (Snapshot.check_valid checked) opened⟩

end Graph
end FilterGraph
