import FilterGraph.Manifest.NodeType
import FilterGraph.Proofs.Manifest.Reordering

namespace FilterGraph

namespace Template

theorem render_congr {values others : Entries String String}
    (same : ∀ name, Entries.get? name values = Entries.get? name others) (template : String) :
    render template values = render template others := by
  have filled : fill template values = fill template others := by
    funext piece
    cases piece with
    | literal c => rfl
    | malformed line column => rfl
    | placeholder name => rw [fill, fill, same]
  rw [render, render, filled]

end Template

namespace NodeSpec

def paramText (params : Params) (name : String) : Except Param.Problem String :=
  (Param.given { name, default? := some "", required := false } params).mapError .unwritable

section Values

variable {ε : Type} (text : String → Except ε String)

theorem foldlM_set (known params : Entries String String)
    (distinct : (known.map (·.1) ++ params.map (·.1)).Nodup) :
    params.foldlM (fun known (name, _) => do return Entries.set name (← text name) known) known =
      params.mapM (fun (name, _) => do return (name, ← text name)) >>= fun more => pure (known ++ more) := by
  induction params generalizing known with
  | nil =>
    rw [List.mapM_nil, pure_bind, List.append_nil]
    rfl
  | cons first rest ih =>
    obtain ⟨name, label⟩ := first
    rw [List.foldlM_cons, List.mapM_cons]
    cases found : text name with
    | error e => simp only [found]; rfl
    | ok value =>
      have here : text name = pure value := found
      have fresh : ∀ e ∈ known, (e.1 == name) = false := fun e member =>
        beq_false_of_ne ((List.nodup_append.mp distinct).2.2 _ (List.mem_map_of_mem member) _ List.mem_cons_self)
      have set : Entries.set name value known = known ++ [(name, value)] := Entries.setBy_fresh fresh value
      have later := ih (known ++ [(name, value)]) (by simpa using distinct)
      simp only [List.append_assoc, List.singleton_append] at later
      simp only [here, pure_bind, bind_assoc, set, later]

theorem mapM_matched {params others : Entries String String} (perm : params.Perm others)
    (distinct : (params.map (·.1)).Nodup) :
    Matched (fun values known : Entries String String => values.Perm known ∧ (values.map (·.1)).Nodup)
      (params.mapM fun (name, _) => do return (name, ← text name))
      (others.mapM fun (name, _) => do return (name, ← text name)) := by
  let named : String × String → Except ε (String × String) := fun (name, _) => do return (name, ← text name)
  have names : ∀ values, params.mapM named = .ok values → (values.map (·.1)).Nodup := by
    intro values done
    have same : params.map (·.1) = values.map (·.1) := forall₂_map_eq (mapM_ok done) fun x y made => by
      obtain ⟨value, -, here⟩ := bind_ok made
      cases here
      rfl
    exact same ▸ distinct
  have matched := Matched.mapM_perm named perm
  change Matched _ (params.mapM named) (others.mapM named)
  generalize params.mapM named = outcome at matched names ⊢
  generalize others.mapM named = outcome' at matched ⊢
  cases matched with
  | failed d e => exact .failed d e
  | done perm => exact .done ⟨perm, names _ rfl⟩

theorem resolve_eq (given : Params) {s : NodeSpec} (distinct : (s.params.map (·.1)).Nodup) :
    Param.resolve s.paramList given = s.params.mapM fun (name, _) => do return (name, ← paramText given name) := by
  have set := foldlM_set (paramText given) [] s.params distinct
  simp only [List.nil_append, bind_pure] at set
  rw [Param.resolve, paramList, List.foldlM_map, ← set]
  refine foldlM_congr (fun e _ known => ?_) []
  simp only [paramText, Bool.and_false, Bool.false_eq_true, if_false]
  rfl

end Values

theorem isSome_find?_of_perm {α : Type} (p : α → Bool) {xs ys : List α} (perm : xs.Perm ys) :
    (xs.find? p).isSome = (ys.find? p).isSome := by
  rw [Bool.eq_iff_iff, List.find?_isSome, List.find?_isSome]
  simp only [perm.mem_iff]

theorem get?_bindings {values others : Entries String String}
    (same : ∀ name, Entries.get? name values = Entries.get? name others) (node chain folder name : String) :
    Entries.get? name (bindings values node chain folder) = Entries.get? name (bindings others node chain folder) := by
  rw [bindings, bindings, Entries.get?_foldl_set, Entries.get?_foldl_set, same]

section Reordered

variable {s t : NodeSpec} (reordered : s.Reordered t) (distinct : s.Distinct) (typeId : String) (node : NodeView)

include reordered distinct

theorem safeValues_matched : Matched (fun values others => ∀ name, Entries.get? name values = Entries.get? name others)
    (s.safeValues typeId node) (t.safeValues typeId node) := by
  have distinct' : (t.params.map (·.1)).Nodup := (reordered.params.map _).nodup_iff.mp distinct.params
  have resolved : Matched (fun values others => values.Perm others ∧ (values.map (·.1)).Nodup)
      (NodeType.resolve s.paramList typeId node) (NodeType.resolve t.paramList typeId node) := by
    rw [NodeType.resolve, NodeType.resolve, resolve_eq _ distinct.params, resolve_eq _ distinct']
    exact (mapM_matched (paramText node.params) reordered.params distinct.params).mapError _
  rw [safeValues, safeValues]
  refine resolved.bind fun values others ⟨perm, names⟩ => ?_
  have found := isSome_find?_of_perm (fun ((_, value) : String × String) => !isSafeValue value) perm
  split
  case h_1 left =>
    rw [left] at found
    split
    case h_1 => exact .failed _ _
    case h_2 right =>
      rw [right] at found
      cases found
  case h_2 left =>
    rw [left] at found
    split
    case h_1 right =>
      rw [right] at found
      cases found
    case h_2 => exact .done (Entries.get?_of_perm names perm)

/-- What the node types emit: the same lines in front, then rules in the order of the outputs. -/
def Emits (s t : NodeSpec) (l k : Listing) : Prop :=
  ∃ front rules others, l.lines = front ++ rules ∧ k.lines = front ++ others ∧ rules.Perm others ∧
    (s.outputs = t.outputs → rules = others) ∧ l.files.Perm k.files ∧ l.nat = k.nat

theorem listing_matched (outgoing : List Connection) (site : Site) :
    Matched (Emits s t) (s.listing typeId node outgoing site) (t.listing typeId node outgoing site) := by
  have same {α : Type} (a : Except EmitError α) : Matched Eq a a := .refl (fun _ => rfl) a
  rw [listing, listing]
  refine (same _).bind fun chain _ here => ?_
  subst here
  refine (safeValues_matched reordered distinct typeId node).bind fun values others known => ?_
  have rendered : render node (bindings values node.id chain (site.nodeFolder node.id)) =
      render node (bindings others node.id chain (site.nodeFolder node.id)) := by
    funext template
    rw [render, render, Template.render_congr (get?_bindings known _ _ _)]
  have ruled : outputRule node outgoing site chain (bindings values node.id chain (site.nodeFolder node.id)) =
      outputRule node outgoing site chain (bindings others node.id chain (site.nodeFolder node.id)) := by
    funext name output
    rw [outputRule, outputRule, rendered]
  simp only [rendered, ruled, ← reordered.displayName, ← reordered.setup]
  refine (same _).bind fun header _ here => ?_
  subst here
  refine (same _).bind fun setup _ here => ?_
  subst here
  refine (Matched.mapM_order _ reordered.outputs).bind fun rules others ruled => ?_
  refine (Matched.mapM_perm _ reordered.files).bind fun files _ filed => ?_
  exact .done ⟨.text header :: setup.map .text, rules, others, rfl, rfl, ruled.1, ruled.2, filed, rfl⟩

end Reordered

end NodeSpec
end FilterGraph
