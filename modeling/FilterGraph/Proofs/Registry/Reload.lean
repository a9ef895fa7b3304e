import FilterGraph.Proofs.Manifest.Emission
import FilterGraph.Proofs.Registry.Integrity

namespace FilterGraph

/-- The same node type, but for the order of its parameters, of its output ports and their rules, and of its data files. -/
structure NodeType.Reordered (a b : NodeType) : Prop where
  typeId : a.typeId = b.typeId
  displayName : a.displayName = b.displayName
  extension? : a.extension? = b.extension?
  ports : a.ports.Perm b.ports
  params : a.params.Perm b.params
  emit : ∀ node incoming outgoing site, Matched (fun f k => (∃ front rules others, rules.Perm others ∧
      f.script = ScriptLine.joined (front ++ rules) ∧ k.script = ScriptLine.joined (front ++ others)) ∧
      (a.ports = b.ports → f.script = k.script) ∧ f.files.Perm k.files ∧ f.nat = k.nat)
    (a.emit node incoming outgoing site) (b.emit node incoming outgoing site)

namespace NodeSpec

variable {s t : NodeSpec}

theorem toOutput_keys (outputs : Entries String PortSpec) :
    (outputs.map fun (name, p) => p.toOutput name).map Port.name = outputs.map (·.1) := by
  rw [List.map_map]
  rfl

theorem ports_eq_iff (reordered : s.Reordered t) (distinct : s.Distinct) : s.ports = t.ports ↔ s.outputs = t.outputs := by
  constructor
  · intro same
    have outputs := (List.cons.inj same).2
    have names := congrArg (List.map Port.name) outputs
    rw [toOutput_keys, toOutput_keys] at names
    exact Json.eq_of_perm_of_keys distinct.outputs names reordered.outputs
  · intro same
    rw [ports, ports, same, reordered.input]

theorem nodeType_reordered (reordered : s.Reordered t) (distinct : s.Distinct) (extension name : String) :
    (s.nodeType extension name).Reordered (t.nodeType extension name) := by
  constructor
  case typeId => rfl
  case displayName => exact reordered.displayName
  case extension? => rfl
  case ports =>
    have outputs := reordered.outputs.map fun (name, p) => p.toOutput name
    simpa only [nodeType, ports, reordered.input] using outputs.cons t.input.toInput
  case params => exact reordered.params.map _
  case emit =>
    intro node incoming outgoing site
    refine (listing_matched reordered distinct _ node outgoing site).map fun l k emits => ?_
    obtain ⟨front, rules, others, left, right, perm, order, files, nat⟩ := emits
    have scripts : (Listing.fragment l).script = ScriptLine.joined (front ++ rules) ∧
        (Listing.fragment k).script = ScriptLine.joined (front ++ others) :=
      ⟨congrArg ScriptLine.joined left, congrArg ScriptLine.joined right⟩
    refine ⟨⟨front, rules, others, perm, scripts⟩, fun ports => ?_, files, nat⟩
    rw [scripts.1, scripts.2, order ((ports_eq_iff reordered distinct).mp ports)]

end NodeSpec

namespace Registry

section Load

variable {r next : Registry} {b : Bundle}

theorem load_ignored_iff : r.load b = .ok (r, false) ↔ r.extensions.get? b.id = some b.fingerprint := by
  constructor
  · intro ignored
    rcases load_cases r b with ⟨found, -⟩ | ⟨-, -, refused⟩ | ⟨-, -, loaded⟩ | ⟨-, -, refused⟩
    · exact found
    · cases refused.symm.trans ignored
    · have fresh : true = false := congrArg Prod.snd (Except.ok.inj (loaded.symm.trans ignored))
      cases fresh
    · cases refused.symm.trans ignored
  · intro found
    simp only [load, found, beq_self_eq_true, if_true]

theorem load_new (loading : r.load b = .ok (next, true)) :
    (∀ t ∈ b.types, next.get? t.typeId = some t) ∧ r.extensions.get? b.id = none ∧
      next.extensions = r.extensions ++ [(b.id, b.fingerprint)] := by
  rcases load_cases r b with ⟨-, loaded⟩ | ⟨-, -, refused⟩ | ⟨missing, clear, loaded⟩ | ⟨-, -, refused⟩
  · cases loaded.symm.trans loading
  · cases refused.symm.trans loading
  · obtain ⟨distinct, fresh⟩ := clashes_eq_nil.mp clear
    cases loaded.symm.trans loading
    refine ⟨fun t member => ?_, ?_, rfl⟩
    · have old : r.types.find? (·.typeId == t.typeId) = none := get?_eq_none.mpr (fresh t member)
      rw [get?, List.find?_append, old, Option.none_or]
      exact get?_of_mem (r := ⟨b.types, []⟩) distinct member
    · simpa [hasExtension] using missing
  · cases refused.symm.trans loading

end Load

section Manifests

variable {r next : Registry} {v w : Value} {m n : Manifest} {source? again? : Option Path}

/-- A manifest that was loaded is passed over under its id exactly when it comes again, in whatever order. The node types
    it then has are those that are registered, but for the order inside them. -/
theorem reload_ignored_iff_reordered (first : Manifest.check v = .ok m) (second : Manifest.check w = .ok n)
    (loading : r.load (.ofManifest m source?) = .ok (next, true))
    (noCollision : Sha256.hex (Utf8.encode (Json.compact m.toValue)) = Sha256.hex (Utf8.encode (Json.compact n.toValue)) →
      Json.compact m.toValue = Json.compact n.toValue) :
    (next.load (.ofManifest n again?) = .ok (next, false) ↔
      m.Reordered n ∨ m.id ≠ n.id ∧ r.load (.ofManifest n again?) = .ok (r, false)) ∧
    (m.Reordered n → ∀ name s t, (name, s) ∈ m.nodes → (name, t) ∈ n.nodes →
      next.get? s!"{m.id}:{name}" = some (s.nodeType m.id name) ∧
        (s.nodeType m.id name).Reordered (t.nodeType n.id name) ∧
          ((s.nodeType m.id name).ports = (t.nodeType n.id name).ports ↔ s.outputs = t.outputs)) := by
  have distinct := Manifest.check_distinct first
  obtain ⟨brought, missing, extensions⟩ := load_new loading
  have texts := Manifest.compact_toValue_iff distinct (Manifest.check_distinct second)
  constructor
  · have known : next.extensions.get? n.id =
        if n.id = m.id then some (Bundle.fingerprintOf m.toValue) else r.extensions.get? n.id := by
      have unknown : r.extensions.get? m.id = none := missing
      rw [extensions, Entries.get?, List.lookup_append, ← Entries.get?, ← Entries.get?, Entries.get?_cons]
      by_cases same : n.id = m.id
      · rw [if_pos same, same, unknown, Option.none_or]
        exact if_pos rfl
      · rw [if_neg same]
        exact (congrArg _ (if_neg same)).trans Option.or_none
    rw [load_ignored_iff, load_ignored_iff]
    change next.extensions.get? n.id = some (Bundle.fingerprintOf n.toValue) ↔
      m.Reordered n ∨ m.id ≠ n.id ∧ r.extensions.get? n.id = some (Bundle.fingerprintOf n.toValue)
    rw [known]
    by_cases same : n.id = m.id
    · have prints : Bundle.fingerprintOf m.toValue = Bundle.fingerprintOf n.toValue ↔ m.Reordered n :=
        ⟨fun same => texts.mp (noCollision same), fun reordered => by
          rw [Bundle.fingerprintOf, Bundle.fingerprintOf, texts.mpr reordered]⟩
      simp only [same, if_true, Option.some.injEq, prints, ne_eq, not_true_eq_false, false_and, or_false]
    · have other : ¬ m.Reordered n := fun reordered => same reordered.id.symm
      simp only [same, if_false, other, false_or, ne_eq, Ne.symm same, not_false_eq_true, true_and]
  · intro reordered name s t listed known
    have specs := reordered.specs name s t listed known
    have apart := distinct.specs _ listed
    refine ⟨brought _ (List.mem_map_of_mem listed), ?_, ?_⟩
    · exact reordered.id ▸ NodeSpec.nodeType_reordered specs apart m.id name
    · exact NodeSpec.ports_eq_iff specs apart

end Manifests

def forked : Manifest :=
  { id := "x", nodes := [("n", { displayName := "N", outputs := [("a", { rule := "tcp dport 22" }), ("b", {})] })] }

def swapped : Manifest :=
  { id := "x", nodes := [("n", { displayName := "N", outputs := [("b", {}), ("a", { rule := "tcp dport 22" })] })] }

theorem swapped_ignored : ∃ next s t, builtin.load (.ofManifest forked) = .ok (next, true) ∧
    next.load (.ofManifest swapped) = .ok (next, false) ∧ ("n", s) ∈ forked.nodes ∧ ("n", t) ∈ swapped.nodes ∧
      next.get? "x:n" = some (s.nodeType "x" "n") ∧ (s.nodeType "x" "n").ports ≠ (t.nodeType "x" "n").ports ∧
        ∃ outgoing site, (s.nodeType "x" "n").emit ⟨"k", []⟩ [] outgoing site ≠
          (t.nodeType "x" "n").emit ⟨"k", []⟩ [] outgoing site := by
  have first : Manifest.check forked.toValue = .ok forked := by rfl
  have second : Manifest.check swapped.toValue = .ok swapped := by rfl
  have reordered : forked.Reordered swapped := by
    refine ⟨rfl, rfl, rfl, .refl _, fun name s t listed known => ?_⟩
    cases List.mem_singleton.mp listed
    cases List.mem_singleton.mp known
    exact ⟨rfl, .refl _, rfl, .swap _ _ _, rfl, .refl _⟩
  obtain ⟨next, loading⟩ : ∃ next, builtin.load (.ofManifest forked) = .ok (next, true) :=
    ⟨_, load_of_new rfl (clashes_eq_nil.mpr (by decide))⟩
  have texts := (Manifest.compact_toValue_iff (Manifest.check_distinct first) (Manifest.check_distinct second)).mpr reordered
  have reload := @reload_ignored_iff_reordered builtin next _ _ forked swapped none none first second loading
  obtain ⟨ignored, kept⟩ := reload fun _ => texts
  obtain ⟨registered, -, ports⟩ := kept reordered "n" _ _ (List.mem_singleton_self _) (List.mem_singleton_self _)
  let outgoing : List Connection := [⟨⟨"k", "a"⟩, ⟨localhostId, "in"⟩⟩]
  let site : Site := { chains := [("k", "n_k"), (localhostId, "localhost")], files := .empty (Path.ofText "/") }
  let script (m : Manifest) := m.nodeTypes.map fun t => ((t.emit ⟨"k", []⟩ [] outgoing site).map Fragment.script).toOption
  have scripts : script forked ≠ script swapped := by decide +kernel
  refine ⟨next, _, _, loading, ignored.mpr (Or.inl reordered), List.mem_singleton_self _, List.mem_singleton_self _,
    registered, fun same => absurd (ports.mp same) (by decide), outgoing, site, fun same => ?_⟩
  have one := congrArg (fun emitted : Except EmitError Fragment => [(emitted.map Fragment.script).toOption]) same
  exact scripts one

end Registry
end FilterGraph
