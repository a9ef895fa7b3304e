import FilterGraph.Proofs.Graph.Authored
import FilterGraph.Proofs.Sorting

namespace FilterGraph

namespace Registry

/-- The extension is loaded, or a type says that it comes from it. -/
def Knows (r : Registry) (id : String) : Prop := r.hasExtension id = true ∨ ∃ t ∈ r.types, t.extension? = some id

theorem load_hasExtension {r next : Registry} {b : Bundle} {isNew : Bool} (loading : r.load b = .ok (next, isNew)) :
    next.hasExtension b.id = true ∧ ∀ id, r.hasExtension id = true → next.hasExtension id = true := by
  unfold load at loading
  cases found : r.extensions.get? b.id with
  | some fingerprint =>
    simp only [found] at loading
    split at loading <;> cases loading
    exact ⟨by rw [hasExtension, found]; rfl, fun _ => id⟩
  | none =>
    simp only [found] at loading
    cases clashing : r.clashes b with
    | cons clash rest =>
      simp only [clashing] at loading
      cases loading
    | nil =>
      simp only [clashing] at loading
      cases loading
      have later : ∀ id, hasExtension ⟨r.types ++ b.types, r.extensions ++ [(b.id, b.fingerprint)]⟩ id =
          (r.hasExtension id || id == b.id) := by
        intro id
        simp only [hasExtension, Entries.get?, List.lookup_append, Option.isSome_or]
        congr 1
        by_cases same : id = b.id
        · subst same
          simp
        · simp [same]
      exact ⟨by simp [later], fun id known => by simp [later, known]⟩

theorem Knows.loaded {r next : Registry} {b : Bundle} {isNew : Bool} {id : String} (known : r.Knows id)
    (loading : r.load b = .ok (next, isNew)) : next.Knows id := by
  rcases known with loaded | ⟨t, member, brought⟩
  · exact Or.inl ((load_hasExtension loading).2 id loaded)
  · obtain ⟨more, types⟩ := load_types loading
    exact Or.inr ⟨t, types ▸ List.mem_append_left _ member, brought⟩

theorem loadFrom_hasExtension {r : Registry} {l : Loader} {t : FileTree} {id : String}
    (loaded : (r.loadFrom l t id).failure? = none) :
    (r.loadFrom l t id).registry.hasExtension id = true ∧
      ∀ other, r.hasExtension other = true → (r.loadFrom l t id).registry.hasExtension other = true := by
  unfold loadFrom at loaded ⊢
  cases found : (l.load t id).outcome with
  | error e =>
    simp only [found] at loaded
    cases loaded
  | ok b =>
    simp only [found] at loaded ⊢
    cases loading : r.load b with
    | error e =>
      simp only [loading] at loaded
      cases loaded
    | ok result =>
      obtain ⟨next, isNew⟩ := result
      -- The loader refuses a file that holds another bundle than the one asked for.
      have named : b.id = id := by
        obtain ⟨p?, -, read⟩ := bind_ok found
        cases p? with
        | none => cases read
        | some p =>
          obtain ⟨b, -, read⟩ := bind_ok read
          split at read
          · rename_i same
            cases read
            exact eq_of_beq same
          · cases read
      exact named ▸ load_hasExtension loading

theorem require_hasExtension {r : Registry} {loader? : Option Loader} {t : FileTree} {ids : List String}
    (required : (r.require loader? t ids).failure? = none) :
    (∀ id ∈ ids, (r.require loader? t ids).registry.hasExtension id = true) ∧
      ∀ id, r.hasExtension id = true → (r.require loader? t ids).registry.hasExtension id = true := by
  induction ids generalizing r with
  | nil => exact ⟨fun id member => absurd member List.not_mem_nil, fun _ => id⟩
  | cons first rest ih =>
    unfold require at required ⊢
    by_cases known : r.hasExtension first = true
    · rw [if_pos known] at required ⊢
      obtain ⟨others, kept⟩ := ih required
      exact ⟨List.forall_mem_cons.mpr ⟨kept first known, others⟩, kept⟩
    · rw [if_neg known] at required ⊢
      cases loader? with
      | none => cases required
      | some l =>
        cases failed : (r.loadFrom l t first).failure? with
        | some e =>
          simp only [failed] at required
          cases required
        | none =>
          simp only [failed] at required ⊢
          obtain ⟨brought, grown⟩ := loadFrom_hasExtension failed
          obtain ⟨others, kept⟩ := ih required
          exact ⟨List.forall_mem_cons.mpr ⟨kept first brought, others⟩, fun id old => kept id (grown id old)⟩

theorem require_eq {r : Registry} {loader? : Option Loader} {t : FileTree} {ids : List String}
    (known : ∀ id ∈ ids, r.hasExtension id = true) : r.require loader? t ids = { registry := r } := by
  induction ids with
  | nil => rfl
  | cons first rest ih =>
    obtain ⟨here, others⟩ := List.forall_mem_cons.mp known
    unfold require
    rw [if_pos here, ih others]

end Registry

namespace Graph

/-- The extensions of a graph are known, and listed once. -/
structure Declares (r : Registry) (g : Graph) : Prop where
  distinct : g.extensions.Nodup
  known : ∀ id ∈ g.extensions, r.Knows id

section Declares

variable {r : Registry} {g : Graph}

theorem Declares.insert (declares : g.Declares r) {n : Node} (known : n.type ∈ r.types) : (g.insert n).Declares r := by
  cases brought : n.type.extension? with
  | none =>
    have same : (g.insert n).extensions = g.extensions := by simp only [Graph.insert, brought]
    exact ⟨same ▸ declares.distinct, same ▸ declares.known⟩
  | some id =>
    by_cases listed : id ∈ g.extensions
    · have same : (g.insert n).extensions = g.extensions := by simp [Graph.insert, brought, listed]
      exact ⟨same ▸ declares.distinct, same ▸ declares.known⟩
    · have more : (g.insert n).extensions = g.extensions ++ [id] := by simp [Graph.insert, brought, listed]
      constructor
      case distinct =>
        rw [more]
        exact declares.distinct.append (List.nodup_singleton id) (by simpa using listed)
      case known =>
        rw [more]
        refine List.forall_mem_append.mpr ⟨declares.known, fun other member => ?_⟩
        rw [List.mem_singleton.mp member]
        exact Or.inr ⟨n.type, known, brought⟩

theorem Declares.change (declares : g.Declares r) {next : Graph} (change : Change r g next) : next.Declares r := by
  cases change with
  | kept k => exact ⟨declares.distinct, declares.known⟩
  | inserted n k known free fresh =>
    have same : ({ g with nextId := k } : Graph).Declares r := ⟨declares.distinct, declares.known⟩
    exact same.insert (List.mem_of_find?_eq_some known)
  | removed id free => exact ⟨declares.distinct, declares.known⟩
  | plugged c joins free => exact ⟨declares.distinct, declares.known⟩
  | unplugged output => exact ⟨declares.distinct, declares.known⟩

theorem Declares.addDocumented (declares : g.Declares r) {n : SnapshotNode} {next : Graph}
    (added : addDocumented r g n = .ok next) : next.Declares r := by
  obtain ⟨-, type, known, rfl⟩ := addDocumented_ok added
  have member : type ∈ r.types := List.mem_of_find?_eq_some known
  exact declares.insert member

theorem Declares.opened {s : Snapshot} (loaded : ∀ id ∈ s.extensions, r.hasExtension id = true)
    (opening : ofSnapshot r s = .ok g) : g.Declares r := by
  have start : ({ extensions := s.extensions.eraseDups, metadata := .record s.metadata } : Graph).Declares r :=
    ⟨eraseDups_nodup _, fun id member => Or.inl (loaded id (List.mem_eraseDups.mp member))⟩
  obtain ⟨h, added, made⟩ := bind_ok opening
  split at made
  · have filled : h.Declares r := foldlM_keeps (fun _ _ _ declares added => declares.addDocumented added) start added
    exact foldlM_keeps (fun _ _ _ declares made => declares.change (.of_connect (connectDocumented_ok made))) filled made
  · cases made

end Declares

theorem Authored.declares {r : Registry} {g : Graph} (authored : Authored r g) : g.Declares r := by
  induction authored with
  | new built => exact ⟨List.nodup_nil, fun id member => absurd member List.not_mem_nil⟩
  | opened built valid opening =>
    obtain ⟨required, made⟩ := openSnapshot_ok opening
    exact .opened (Registry.require_hasExtension required).1 made
  | loaded _ loading ih => exact ⟨ih.distinct, fun id member => (ih.known id member).loaded loading⟩
  | edited _ e ih => exact ih.change (edit_change _ _ e)
  | written _ id name value ih => exact ⟨ih.distinct, ih.known⟩
  | annotated _ metadata ih => exact ⟨ih.distinct, ih.known⟩

end Graph
end FilterGraph
