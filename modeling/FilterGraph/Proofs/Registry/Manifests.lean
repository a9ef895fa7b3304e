import FilterGraph.Proofs.Coloring.Direction
import FilterGraph.Proofs.Export.Header
import FilterGraph.Proofs.Registry.Integrity
import FilterGraph.Proofs.Text.Pieces

namespace FilterGraph

namespace Manifest

section TypeIds
variable {v w : Value} {m n : Manifest} {t : NodeType}

theorem check_reserved (checked : check v = .ok m) : m.id ≠ "core" := by
  obtain ⟨read, -, ensured⟩ := bind_ok checked
  obtain ⟨rfl, clear⟩ := Checked.ensure_ok ensured
  rintro core
  rw [problem?, core, beq_self_eq_true, if_pos rfl] at clear
  cases clear

theorem colon_not_mem (checked : check v = .ok m) : ':' ∉ m.id.toList := by
  intro colon
  rcases isId_spelt (check_fields checked).1 ':' colon with letter | mark
  · exact absurd letter (by decide)
  · exact absurd mark (by decide)

theorem typeId_spelt (member : t ∈ m.nodeTypes) :
    ∃ name ∈ m.nodes.map (·.1), t.typeId.toList = m.id.toList ++ ':' :: name.toList := by
  obtain ⟨⟨name, s⟩, listed, rfl⟩ := List.mem_map.mp member
  refine ⟨name, List.mem_map_of_mem listed, ?_⟩
  show (m.id ++ ":" ++ name).toList = _
  rw [String.toList_append, String.toList_append, List.append_assoc]
  rfl

theorem typeIds_nodup (checked : check v = .ok m) : (m.nodeTypes.map (·.typeId)).Nodup := by
  have names : m.nodeTypes.map (·.typeId) = (m.nodes.map (·.1)).map fun name => s!"{m.id}:{name}" := by
    rw [nodeTypes, List.map_map, List.map_map]
    rfl
  rw [names]
  refine (check_nodes checked).1.map fun a b same => ?_
  have whole : (m.id ++ ":" ++ a).toList = (m.id ++ ":" ++ b).toList := congrArg String.toList same
  simp only [String.toList_append, List.append_right_inj] at whole
  exact String.toList_injective whole

theorem typeId_ne (first : check v = .ok m) (second : check w = .ok n) (differ : m.id ≠ n.id) :
    ∀ t ∈ m.nodeTypes, ∀ u ∈ n.nodeTypes, t.typeId ≠ u.typeId := by
  intro t left u right same
  obtain ⟨a, -, spelt⟩ := typeId_spelt left
  obtain ⟨b, -, spelt'⟩ := typeId_spelt right
  rw [same, spelt'] at spelt
  exact differ (String.toList_injective (Text.join_mark_inj (colon_not_mem second) (colon_not_mem first) spelt).1).symm

theorem typeId_not_builtin (checked : check v = .ok m) : ∀ t ∈ m.nodeTypes, t.typeId ∉ Registry.builtin.typeIds := by
  intro t member known
  have core : ∀ id ∈ Registry.builtin.typeIds, "core:".toList <+: id.toList := by decide
  obtain ⟨rest, whole⟩ := core _ known
  obtain ⟨name, -, spelt⟩ := typeId_spelt member
  have same : "core".toList ++ ':' :: rest = m.id.toList ++ ':' :: name.toList := whole.trans spelt
  exact check_reserved checked (String.toList_injective (Text.join_mark_inj (by decide) (colon_not_mem checked) same).1).symm

end TypeIds
end Manifest

def Bundle.OfManifest (b : Bundle) : Prop := ∃ v m source?, Manifest.check v = .ok m ∧ b = .ofManifest m source?

namespace Registry

inductive ManifestRun : Registry → List Call → List Bundle → Prop
  | done (r : Registry) : ManifestRun r [] []
  | load {r : Registry} {b : Bundle} {cs : List Call} {bs : List Bundle} (manifest : b.OfManifest)
      (rest : ManifestRun (r.call (.load b)).1 cs bs) : ManifestRun r (.load b :: cs) (b :: bs)
  | refused {r : Registry} {c : Call} {e : Refusal} {cs : List Call} {bs : List Bundle} (refused : (r.call c).2 = .error e)
      (rest : ManifestRun r cs bs) : ManifestRun r (c :: cs) bs

/-- What a registry has is built in or came with bundles of manifests, no two of one id. -/
structure Holds (r : Registry) (bs : List Bundle) : Prop where
  types : r.types = builtin.types ++ bs.flatMap (·.types)
  extensions : r.extensions = bs.map fun b => (b.id, b.fingerprint)
  manifests : ∀ b ∈ bs, b.OfManifest
  distinct : (bs.map (·.id)).Nodup

namespace Holds
variable {r : Registry} {bs : List Bundle} {b : Bundle} (holds : r.Holds bs)

include holds

theorem hasExtension_iff {id : String} : r.hasExtension id = true ↔ id ∈ bs.map (·.id) := by
  rw [hasExtension, Entries.get?, holds.extensions, List.lookup_isSome_iff]
  simp only [List.mem_map, exists_exists_and_eq_and, beq_iff_eq]
  exact exists_congr fun b => and_congr_right fun _ => eq_comm

theorem clear (manifest : b.OfManifest) (absent : r.hasExtension b.id = false) : r.clashes b = [] := by
  obtain ⟨v, m, source?, checked, rfl⟩ := manifest
  refine clashes_eq_nil.mpr ⟨Manifest.typeIds_nodup checked, fun t member known => ?_⟩
  obtain ⟨u, registered, same⟩ := mem_typeIds.mp known
  rw [holds.types, List.mem_append] at registered
  rcases registered with builtIn | brought
  · exact Manifest.typeId_not_builtin checked t member (mem_typeIds.mpr ⟨u, builtIn, same⟩)
  · obtain ⟨c, listed, inside⟩ := List.mem_flatMap.mp brought
    obtain ⟨w, n, _, checked', rfl⟩ := holds.manifests c listed
    refine Manifest.typeId_ne checked' checked (fun ids => ?_) u inside t member same
    have present := holds.hasExtension_iff.mpr (List.mem_map_of_mem listed)
    rw [show (Bundle.ofManifest n _).id = m.id from ids] at present
    exact Bool.false_ne_true (absent.symm.trans present)

theorem load (manifest : b.OfManifest) :
    (b.id ∈ bs.map (·.id) ∧ (r.call (.load b)).1 = r) ∨
      b.id ∉ bs.map (·.id) ∧ (r.call (.load b)).1.Holds (bs ++ [b]) := by
  by_cases known : b.id ∈ bs.map (·.id)
  · refine .inl ⟨known, ?_⟩
    have present := holds.hasExtension_iff.mpr known
    rcases load_cases r b with ⟨-, same⟩ | ⟨-, -, refused⟩ | ⟨absent, -, -⟩ | ⟨absent, -, -⟩
    · simp only [call, same]
    · simp only [call, refused]
    all_goals exact absurd (present.symm.trans absent) (by decide)
  · refine .inr ⟨known, ?_⟩
    have absent : r.hasExtension b.id = false :=
      Bool.eq_false_iff.mpr fun present => known (holds.hasExtension_iff.mp present)
    have brought : (r.call (.load b)).1 = ⟨r.types ++ b.types, r.extensions ++ [(b.id, b.fingerprint)]⟩ := by
      rcases load_cases r b with ⟨found, -⟩ | ⟨present, -, -⟩ | ⟨-, -, added⟩ | ⟨-, clashing, -⟩
      · rw [hasExtension, found] at absent
        cases absent
      · exact absurd (present.symm.trans absent) (by decide)
      · simp only [call, added]
      · exact absurd (holds.clear manifest absent) clashing
    rw [brought]
    constructor
    case types => rw [holds.types, List.flatMap_append, List.flatMap_singleton, List.append_assoc]
    case extensions => rw [holds.extensions, List.map_append, List.map_singleton]
    case manifests => exact List.forall_mem_append.mpr ⟨holds.manifests, List.forall_mem_singleton.mpr manifest⟩
    case distinct =>
      rw [List.map_append, List.map_singleton]
      refine holds.distinct.append (List.nodup_singleton _) fun id old new => ?_
      exact known (List.mem_singleton.mp new ▸ old)

theorem load_error (manifest : b.OfManifest) {e : ExtensionError} (failed : r.load b = .error e) :
    e = .conflict b.id [] := by
  rcases load_cases r b with ⟨-, same⟩ | ⟨-, -, refused⟩ | ⟨-, -, added⟩ | ⟨absent, clashing, -⟩
  · cases same.symm.trans failed
  · cases refused.symm.trans failed
    rfl
  · cases added.symm.trans failed
  · exact absurd (holds.clear manifest absent) clashing

theorem run {cs : List Call} {loaded : List Bundle} (run : ManifestRun r cs loaded) :
    ∃ new, (r.calls cs).Holds (bs ++ new) ∧ new ⊆ loaded ∧ ∀ b ∈ loaded, b.id ∈ (bs ++ new).map (·.id) := by
  induction run generalizing bs with
  | done r => exact ⟨[], by rwa [List.append_nil], List.nil_subset _, nofun⟩
  | refused refused rest ih =>
    obtain ⟨new, here, part, all⟩ := ih holds
    refine ⟨new, ?_, part, all⟩
    rwa [calls, List.foldl_cons, call_refused refused]
  | load manifest rest ih =>
    rename_i r b cs loaded
    -- either the run goes on from the bundles there were, or from one more
    rcases holds.load manifest with ⟨known, same⟩ | ⟨-, brought⟩
    · rw [same] at rest ih
      obtain ⟨new, here, part, all⟩ := ih holds
      refine ⟨new, ?_, List.subset_cons_of_subset b part, List.forall_mem_cons.mpr ⟨?_, all⟩⟩
      · rwa [calls, List.foldl_cons, same]
      · rw [List.map_append]
        exact List.mem_append_left _ known
    · obtain ⟨new, here, part, all⟩ := ih brought
      rw [List.append_assoc, List.singleton_append] at here all
      refine ⟨b :: new, here, List.cons_subset_cons b part, List.forall_mem_cons.mpr ⟨?_, all⟩⟩
      exact List.mem_map_of_mem (List.mem_append_right _ List.mem_cons_self)

end Holds

theorem builtin_holds : builtin.Holds [] := ⟨(List.append_nil _).symm, rfl, nofun, List.nodup_nil⟩

theorem mem_new_iff {new loaded : List Bundle} (part : new ⊆ loaded) (all : ∀ b ∈ loaded, b.id ∈ new.map (·.id))
    (single : ∀ b ∈ loaded, ∀ c ∈ loaded, b.id = c.id → b = c) {b : Bundle} : b ∈ new ↔ b ∈ loaded := by
  refine ⟨fun member => part member, fun member => ?_⟩
  obtain ⟨c, there, ids⟩ := List.mem_map.mp (all b member)
  rwa [single b member c (part there) ids.symm]

theorem ManifestRun.types_perm {cs ds : List Call} {bs es : List Bundle} (left : ManifestRun builtin cs bs)
    (right : ManifestRun builtin ds es) (same : ∀ b, b ∈ bs ↔ b ∈ es)
    (single : ∀ b ∈ bs, ∀ c ∈ bs, b.id = c.id → b = c) : (builtin.calls cs).types.Perm (builtin.calls ds).types := by
  obtain ⟨new, here, part, all⟩ := builtin_holds.run left
  obtain ⟨new', here', part', all'⟩ := builtin_holds.run right
  rw [List.nil_append] at here all here' all'
  have single' : ∀ b ∈ es, ∀ c ∈ es, b.id = c.id → b = c :=
    fun b first c second => single b ((same b).mpr first) c ((same c).mpr second)
  have perm : new.Perm new' := by
    refine (List.perm_ext_iff_of_nodup (here.distinct.of_map _) (here'.distinct.of_map _)).mpr fun b => ?_
    rw [mem_new_iff part all single, same, mem_new_iff part' all' single']
  rw [here.types, here'.types]
  exact (perm.flatMap_right _).append_left _

/-- Type ids tell manifests apart, so bundles of manifests never clash, and the types that a registry ends with do not depend
    on the order in which they were loaded. -/
theorem manifests_never_clash :
    (∀ v m, Manifest.check v = .ok m → (m.nodeTypes.map (·.typeId)).Nodup ∧
      (∀ t ∈ m.nodeTypes, t.typeId ∉ builtin.typeIds ∧ (t.ports.map (·.name)).Nodup) ∧
      ∀ w n, Manifest.check w = .ok n → m.id ≠ n.id → ∀ t ∈ m.nodeTypes, ∀ u ∈ n.nodeTypes, t.typeId ≠ u.typeId) ∧
    ∀ cs bs, ManifestRun builtin cs bs →
      (∀ v m source? e, Manifest.check v = .ok m → (builtin.calls cs).load (.ofManifest m source?) = .error e →
        e = .conflict m.id []) ∧
      ∀ ds es, ManifestRun builtin ds es → (∀ b, b ∈ bs ↔ b ∈ es) → (∀ b ∈ bs, ∀ c ∈ bs, b.id = c.id → b = c) →
        (builtin.calls cs).types.Perm (builtin.calls ds).types := by
  constructor
  · intro v m checked
    refine ⟨Manifest.typeIds_nodup checked, fun t member => ?_, fun w n second => Manifest.typeId_ne checked second⟩
    exact ⟨Manifest.typeId_not_builtin checked t member, (Manifest.nodeTypes_singleEntry checked member).differ⟩
  · intro cs bs run
    refine ⟨fun v m source? e checked failed => ?_, fun ds es => run.types_perm⟩
    obtain ⟨new, here, -⟩ := builtin_holds.run run
    exact here.load_error ⟨v, m, source?, checked, rfl⟩ failed

def outer : Manifest := { id := "x", nodes := [("y:z", { displayName := "Outer" })] }

def inner : Manifest := { id := "y", nodes := [("z", { displayName := "Inner" })] }

def stray : Bundle := { id := "x", types := [Builtin.drop.nodeType], fingerprint := "" }

theorem nested_names_apart :
    (∃ e, (builtin.call (.load stray)).2 = .error e) ∧
    (builtin.calls [.load stray, .load (.ofManifest outer), .load (.ofManifest inner)]).types.Perm
      (builtin.calls [.load (.ofManifest inner), .load (.ofManifest outer)]).types ∧
    ∀ t ∈ outer.nodeTypes, ∀ u ∈ inner.nodeTypes, t.typeId = "x:y:z" ∧ u.typeId = "y:z" ∧ t.typeId ≠ u.typeId := by
  have outerAccepted : Manifest.check outer.toValue = .ok outer := by rfl
  have innerAccepted : Manifest.check inner.toValue = .ok inner := by rfl
  have outerBundle : (Bundle.ofManifest outer).OfManifest := ⟨_, outer, none, outerAccepted, rfl⟩
  have innerBundle : (Bundle.ofManifest inner).OfManifest := ⟨_, inner, none, innerAccepted, rfl⟩
  have refused : ∃ e, (builtin.call (.load stray)).2 = .error e := by
    rcases load_cases builtin stray with ⟨found, -⟩ | ⟨-, -, same⟩ | ⟨-, clear, -⟩ | ⟨-, -, same⟩
    · cases found
    · exact ⟨_, by rw [call, same]⟩
    · exact absurd ((clashes_eq_nil.mp clear).2 _ (List.mem_singleton_self _)) (by decide)
    · exact ⟨_, by rw [call, same]⟩
  obtain ⟨names, runs⟩ := manifests_never_clash
  obtain ⟨e, clash⟩ := refused
  have first : ManifestRun builtin [.load stray, .load (.ofManifest outer), .load (.ofManifest inner)]
      [.ofManifest outer, .ofManifest inner] := .refused clash (.load outerBundle (.load innerBundle (.done _)))
  have second : ManifestRun builtin [.load (.ofManifest inner), .load (.ofManifest outer)]
      [.ofManifest inner, .ofManifest outer] := .load innerBundle (.load outerBundle (.done _))
  refine ⟨⟨e, clash⟩, (runs _ _ first).2 _ _ second (fun b => by simp [or_comm]) ?_, ?_⟩
  · intro b left c right ids
    simp only [List.mem_cons, List.not_mem_nil, or_false] at left right
    rcases left with rfl | rfl <;> rcases right with rfl | rfl
    · rfl
    · exact absurd ids (by decide)
    · exact absurd ids (by decide)
    · rfl
  · intro t left u right
    have apart := (names _ _ outerAccepted).2.2 _ _ innerAccepted (by decide) t left u right
    cases List.mem_singleton.mp left
    cases List.mem_singleton.mp right
    exact ⟨by decide, by decide, apart⟩

end Registry
end FilterGraph
