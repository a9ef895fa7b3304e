import FilterGraph.Bundle
import FilterGraph.Manifest.Reader
import FilterGraph.Proofs.Json.Compact

namespace FilterGraph

/-- The same node type, but for the order of its parameters, outputs and data files. -/
structure NodeSpec.Reordered (s t : NodeSpec) : Prop where
  displayName : s.displayName = t.displayName
  params : s.params.Perm t.params
  input : s.input = t.input
  outputs : s.outputs.Perm t.outputs
  setup : s.setup = t.setup
  files : s.files.Perm t.files

structure Manifest.Reordered (m n : Manifest) : Prop where
  id : m.id = n.id
  version : m.version = n.version
  description : m.description = n.description
  names : (m.nodes.map (·.1)).Perm (n.nodes.map (·.1))
  specs : ∀ name s t, (name, s) ∈ m.nodes → (name, t) ∈ n.nodes → s.Reordered t

structure NodeSpec.Distinct (s : NodeSpec) : Prop where
  params : (s.params.map (·.1)).Nodup
  outputs : (s.outputs.map (·.1)).Nodup
  files : (s.files.map (·.1)).Nodup

structure Manifest.Distinct (m : Manifest) : Prop where
  nodes : (m.nodes.map (·.1)).Nodup
  specs : ∀ e ∈ m.nodes, e.2.Distinct

section Checked

open Checked

theorem Checked.defaulted_dict {α : Type} {name : String} {item : Value → Checked α} {entries : List (Scalar × Value)}
    {fields : Entries String α} (read : defaulted name (dict item) [] entries = .ok fields) :
    (fields.map (·.1)).Nodup := by
  rcases defaulted_ok read with ⟨v, found⟩ | rfl
  · exact (dict_ok found).1
  · exact List.nodup_nil

theorem NodeSpec.check_distinct {v : Value} {s : NodeSpec} (checked : NodeSpec.check v = .ok s) : s.Distinct := by
  obtain ⟨read, reading, ensured⟩ := bind_ok checked
  obtain ⟨rfl, -⟩ := ensure_ok ensured
  obtain ⟨entries, fields⟩ := record_ok reading
  obtain ⟨files, withSetup, filesRead, setupRead, rfl⟩ := apply_ok (andAlso_ok fields)
  obtain ⟨setup, withOutputs, -, outputsRead, rfl⟩ := apply_ok setupRead
  obtain ⟨outputs, withInput, outputsFound, inputRead, rfl⟩ := apply_ok outputsRead
  obtain ⟨input, withParams, -, paramsRead, rfl⟩ := apply_ok inputRead
  obtain ⟨params, withName, paramsFound, nameRead, rfl⟩ := apply_ok paramsRead
  obtain ⟨name, make, -, start, rfl⟩ := apply_ok nameRead
  cases start
  exact ⟨defaulted_dict paramsFound, defaulted_dict outputsFound, defaulted_dict filesRead⟩

theorem Manifest.check_fields {v : Value} {m : Manifest} (checked : Manifest.check v = .ok m) :
    isId m.id.toList = true ∧ (m.nodes.map (·.1)).Nodup ∧ ∀ e ∈ m.nodes, ∃ w, NodeSpec.check w = .ok e.2 := by
  obtain ⟨read, reading, ensured⟩ := bind_ok checked
  obtain ⟨rfl, -⟩ := ensure_ok ensured
  obtain ⟨entries, fields⟩ := record_ok reading
  obtain ⟨nodes, withDescription, nodesRead, descriptionRead, rfl⟩ := apply_ok (andAlso_ok fields)
  obtain ⟨description, withVersion, -, versionRead, rfl⟩ := apply_ok descriptionRead
  obtain ⟨version, withId, -, idRead, rfl⟩ := apply_ok versionRead
  obtain ⟨id, make, idFound, start, rfl⟩ := apply_ok idRead
  cases start
  obtain ⟨v, found⟩ := required_ok nodesRead
  obtain ⟨w, named⟩ := required_ok idFound
  exact ⟨matching_ok named, dict_ok found⟩

theorem Manifest.check_nodes {v : Value} {m : Manifest} (checked : Manifest.check v = .ok m) :
    (m.nodes.map (·.1)).Nodup ∧ ∀ e ∈ m.nodes, ∃ w, NodeSpec.check w = .ok e.2 := (check_fields checked).2

theorem Manifest.check_distinct {v : Value} {m : Manifest} (checked : Manifest.check v = .ok m) : m.Distinct := by
  obtain ⟨distinct, specs⟩ := check_nodes checked
  refine ⟨distinct, fun e member => ?_⟩
  obtain ⟨w, passed⟩ := specs e member
  exact NodeSpec.check_distinct passed

end Checked

namespace Json

section Tables

variable {α : Type} {write : α → Value}

def tabled (write : α → Value) (xs : Entries String α) : Params := xs.map fun (name, a) => (name, write a)

theorem keys_tabled (xs : Entries String α) : (tabled write xs).map (·.1) = xs.map (·.1) := by
  rw [tabled, List.map_map]
  rfl

theorem told_tabled (xs : Entries String α) : told (tabled write xs) = xs.map fun (name, a) => (name, compact (write a)) := by
  rw [told, tabled, List.map_map]
  rfl

theorem Textual.tabled (textual : ∀ a, Textual (write a)) (xs : Entries String α) : ∀ e ∈ tabled write xs, Textual e.2 :=
  List.forall_mem_map.mpr fun e _ => textual e.2

theorem eq_of_perm_of_keys {xs ys : Entries String α} (distinct : (xs.map (·.1)).Nodup)
    (keys : xs.map (·.1) = ys.map (·.1)) (perm : xs.Perm ys) : xs = ys := by
  induction xs generalizing ys with
  | nil => exact perm.nil_eq
  | cons x xs ih =>
    cases ys with
    | nil => cases keys
    | cons y ys =>
      obtain ⟨fresh, others⟩ := List.nodup_cons.mp distinct
      obtain ⟨key, rest⟩ := List.cons.inj keys
      have same : y = x := by
        rcases List.mem_cons.mp (perm.symm.subset List.mem_cons_self) with here | later
        · exact here
        · exact absurd (key ▸ List.mem_map_of_mem later) fresh
      subst same
      rw [ih others rest (List.perm_cons y |>.mp perm)]

theorem compact_fields {xs ys : Params} (distinct : (xs.map (·.1)).Nodup) (keys : xs.map (·.1) = ys.map (·.1))
    (left : ∀ e ∈ xs, Textual e.2) (right : ∀ e ∈ ys, Textual e.2) :
    compact (.record xs) = compact (.record ys) ↔ told xs = told ys := by
  have names (fields : Params) : (told fields).map (·.1) = fields.map (·.1) := by
    rw [told, List.map_map]
    rfl
  refine ⟨fun same => ?_, fun same => compact_record_of_perm distinct (same ▸ .refl _)⟩
  exact eq_of_perm_of_keys (by rwa [names]) (by rw [names, names, keys]) (told_perm left right same)

theorem told_subset {xs ys : Entries String α} (names : xs.map (·.1) ⊆ ys.map (·.1))
    (same : ∀ name a b, (name, a) ∈ xs → (name, b) ∈ ys → compact (write a) = compact (write b)) :
    told (tabled write xs) ⊆ told (tabled write ys) := by
  intro e member
  rw [told_tabled] at member ⊢
  obtain ⟨⟨name, a⟩, listed, rfl⟩ := List.mem_map.mp member
  obtain ⟨⟨other, b⟩, known, key⟩ := List.mem_map.mp (names (List.mem_map_of_mem listed))
  cases key
  exact List.mem_map.mpr ⟨(name, b), known, congrArg (name, ·) (same name a b listed known).symm⟩

theorem compact_tabled (textual : ∀ a, Textual (write a)) {xs ys : Entries String α} (left : (xs.map (·.1)).Nodup)
    (right : (ys.map (·.1)).Nodup) : compact (.record (tabled write xs)) = compact (.record (tabled write ys)) ↔
      (xs.map (·.1)).Perm (ys.map (·.1)) ∧
        ∀ name a b, (name, a) ∈ xs → (name, b) ∈ ys → compact (write a) = compact (write b) := by
  have keys (fields : Entries String α) : (told (tabled write fields)).map (·.1) = fields.map (·.1) := by
    rw [told_tabled, List.map_map]
    rfl
  constructor
  · intro same
    have perm := told_perm (.tabled textual xs) (.tabled textual ys) same
    refine ⟨keys xs ▸ keys ys ▸ perm.map _, fun name a b listed known => ?_⟩
    have here : (name, compact (write a)) ∈ told (tabled write ys) :=
      perm.subset (told_tabled xs ▸ List.mem_map_of_mem listed)
    have there : (name, compact (write b)) ∈ told (tabled write ys) := told_tabled ys ▸ List.mem_map_of_mem known
    have one := List.inj_on_of_nodup_map (f := Prod.fst) (by rwa [keys]) here there rfl
    exact congrArg Prod.snd one
  · rintro ⟨names, same⟩
    have perm : (told (tabled write xs)).Perm (told (tabled write ys)) := by
      refine (List.perm_ext_iff_of_nodup (.of_map Prod.fst (by rwa [keys])) (.of_map Prod.fst (by rwa [keys]))).mpr
        fun e => ⟨fun member => ?_, fun member => ?_⟩
      · exact told_subset names.subset same member
      · exact told_subset names.symm.subset (fun name a b known listed => (same name b a listed known).symm) member
    exact compact_record_of_perm (by rwa [keys_tabled]) perm

theorem compact_tabled_iff_perm (textual : ∀ a, Textual (write a))
    (apart : ∀ a b, compact (write a) = compact (write b) → a = b) {xs ys : Entries String α}
    (distinct : (xs.map (·.1)).Nodup) :
    compact (.record (tabled write xs)) = compact (.record (tabled write ys)) ↔ xs.Perm ys := by
  have injective : Function.Injective fun e : String × α => (e.1, compact (write e.2)) := by
    intro d e same
    obtain ⟨key, value⟩ := Prod.mk.inj same
    exact Prod.ext key (apart _ _ value)
  have perm : (told (tabled write xs)).Perm (told (tabled write ys)) ↔ xs.Perm ys := by
    rw [told_tabled, told_tabled]
    exact List.map_perm_map_iff injective
  rw [← perm]
  refine ⟨told_perm (.tabled textual xs) (.tabled textual ys), compact_record_of_perm ?_⟩
  rwa [keys_tabled]

end Tables

end Json

open Json

namespace PortSpec

def fields (p : PortSpec) : Params :=
  [("family", .text p.family.name), ("direction", .text p.direction.directionName), ("rule", .text p.rule),
    ("display_name", .text p.displayName)]

theorem fields_textual (p : PortSpec) : ∀ e ∈ p.fields, Textual e.2 := by
  simp only [fields, List.forall_mem_cons]
  exact ⟨.text _, .text _, .text _, .text _, fun _ member => absurd member List.not_mem_nil⟩

theorem toValue_textual (p : PortSpec) : Textual p.toValue := .record p.fields_textual

theorem compact_toValue_inj {p q : PortSpec} (same : compact p.toValue = compact q.toValue) : p = q := by
  have names (p : PortSpec) : p.fields.map (·.1) = ["family", "direction", "rule", "display_name"] := rfl
  have distinct : (p.fields.map (·.1)).Nodup := by
    rw [names]
    decide
  have texts : told p.fields = told q.fields :=
    (compact_fields distinct ((names p).trans (names q).symm) p.fields_textual q.fields_textual).mp same
  simp only [told, fields, List.map_cons, List.cons.injEq, Prod.mk.injEq, compact_text_inj, true_and] at texts
  obtain ⟨family, direction, rule, displayName, -⟩ := texts
  have families : p.family = q.family := by
    cases one : p.family <;> cases other : q.family <;> simp_all [AddressFamily.name]
  have directions : p.direction = q.direction := by
    cases one : p.direction <;> cases other : q.direction <;> simp_all [Flow.directionName, Flow.name]
  cases p
  cases q
  simp_all

end PortSpec

namespace NodeSpec

def fields (s : NodeSpec) : Params :=
  [("display_name", .text s.displayName), ("params", .record (tabled .text s.params)), ("input", s.input.toValue),
    ("outputs", .record (tabled PortSpec.toValue s.outputs)), ("setup", .texts s.setup),
    ("files", .record (tabled .text s.files))]

theorem fields_textual (s : NodeSpec) : ∀ e ∈ s.fields, Textual e.2 := by
  have params : Textual (.record (tabled .text s.params)) := .record (.tabled .text s.params)
  have outputs := Textual.record (Textual.tabled PortSpec.toValue_textual s.outputs)
  have files : Textual (.record (tabled .text s.files)) := .record (.tabled .text s.files)
  simp only [fields, List.forall_mem_cons]
  exact ⟨.text _, params, s.input.toValue_textual, outputs, .texts _, files,
    fun _ member => absurd member List.not_mem_nil⟩

theorem toValue_textual (s : NodeSpec) : Textual s.toValue := .record s.fields_textual

theorem compact_toValue_iff {s t : NodeSpec} (distinct : s.Distinct) :
    compact s.toValue = compact t.toValue ↔ s.Reordered t := by
  have names (s : NodeSpec) : s.fields.map (·.1) = ["display_name", "params", "input", "outputs", "setup", "files"] := rfl
  have apart : (s.fields.map (·.1)).Nodup := by
    rw [names]
    decide
  have texts : compact s.toValue = compact t.toValue ↔ told s.fields = told t.fields :=
    compact_fields apart ((names s).trans (names t).symm) s.fields_textual t.fields_textual
  have tables {xs ys : Entries String String} (distinct : (xs.map (·.1)).Nodup) :
      compact (.record (tabled .text xs)) = compact (.record (tabled .text ys)) ↔ xs.Perm ys :=
    compact_tabled_iff_perm .text (fun _ _ => compact_text_inj.mp) distinct
  have outputs : compact (.record (tabled PortSpec.toValue s.outputs)) =
      compact (.record (tabled PortSpec.toValue t.outputs)) ↔ s.outputs.Perm t.outputs :=
    compact_tabled_iff_perm PortSpec.toValue_textual (fun _ _ => PortSpec.compact_toValue_inj) distinct.outputs
  have input : compact s.input.toValue = compact t.input.toValue ↔ s.input = t.input :=
    ⟨PortSpec.compact_toValue_inj, fun same => by rw [same]⟩
  rw [texts]
  simp only [told, fields, List.map_cons, List.map_nil, List.cons.injEq, Prod.mk.injEq, true_and, and_true, compact_text_inj,
    compact_texts_inj, tables distinct.params, tables distinct.files, outputs, input]
  constructor
  · rintro ⟨displayName, params, input, outputs, setup, files⟩
    exact ⟨displayName, params, input, outputs, setup, files⟩
  · rintro ⟨displayName, params, input, outputs, setup, files⟩
    exact ⟨displayName, params, input, outputs, setup, files⟩

end NodeSpec

namespace Manifest

def fields (m : Manifest) : Params :=
  [("id", .text m.id), ("version", .text m.version), ("description", .text m.description),
    ("nodes", .record (tabled NodeSpec.toValue m.nodes))]

theorem fields_textual (m : Manifest) : ∀ e ∈ m.fields, Textual e.2 := by
  have nodes := Textual.record (Textual.tabled NodeSpec.toValue_textual m.nodes)
  simp only [fields, List.forall_mem_cons]
  exact ⟨.text _, .text _, .text _, nodes, fun _ member => absurd member List.not_mem_nil⟩

/-- Manifests have the same text exactly when they differ in the order of their entries only. -/
theorem compact_toValue_iff {m n : Manifest} (left : m.Distinct) (right : n.Distinct) :
    compact m.toValue = compact n.toValue ↔ m.Reordered n := by
  have names (m : Manifest) : m.fields.map (·.1) = ["id", "version", "description", "nodes"] := rfl
  have apart : (m.fields.map (·.1)).Nodup := by
    rw [names]
    decide
  have texts : compact m.toValue = compact n.toValue ↔ told m.fields = told n.fields :=
    compact_fields apart ((names m).trans (names n).symm) m.fields_textual n.fields_textual
  have nodes := compact_tabled NodeSpec.toValue_textual left.nodes right.nodes
  rw [texts]
  simp only [told, fields, List.map_cons, List.map_nil, List.cons.injEq, Prod.mk.injEq, true_and, and_true, compact_text_inj,
    nodes]
  constructor
  · rintro ⟨id, version, description, names, specs⟩
    refine ⟨id, version, description, names, fun name s t listed known => ?_⟩
    exact (NodeSpec.compact_toValue_iff (left.specs _ listed)).mp (specs name s t listed known)
  · rintro ⟨id, version, description, names, specs⟩
    refine ⟨id, version, description, names, fun name s t listed known => ?_⟩
    exact (NodeSpec.compact_toValue_iff (left.specs _ listed)).mpr (specs name s t listed known)

end Manifest
end FilterGraph
