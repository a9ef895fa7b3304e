import FilterGraph.Proofs.Manifest.Placeholders
import FilterGraph.Proofs.Manifest.Substitution

namespace FilterGraph

namespace NodeSpec

variable {s : NodeSpec} {params : Params} {place : Entries String String} {name value : String}

section Templates

theorem Puts.formed {piece : Template.Piece} {part : List Char} (puts : s.Puts params place piece part) : piece.Formed := by
  cases puts <;> nofun

theorem fills_iff {template text : String} : s.Fills params place template text ↔
    ∃ pieces parts, Template.Spells pieces template.toList ∧ List.Forall₂ (s.Puts params place) pieces parts ∧
      text.toList = parts.flatten := by
  constructor
  · rintro ⟨parts, put, same⟩
    refine ⟨_, parts, Template.spells_iff.mpr ⟨rfl, fun piece member => ?_⟩, put, same⟩
    obtain ⟨part, -, here⟩ := (forall₂_partners put).1 piece member
    exact here.formed
  · rintro ⟨pieces, parts, spells, put, same⟩
    obtain ⟨rfl, -⟩ := Template.spells_iff.mp spells
    exact ⟨parts, put, same⟩

def placeKeys : List String := ["node_id", "chain", "data", "NFT", "TABLE"]

theorem placeNames_eq_none {node chain folder : String} :
    (placeNames node chain folder).get? name = none ↔ name ∉ placeKeys := by
  simp only [placeNames, placeKeys, Entries.get?_cons, List.mem_cons, List.not_mem_nil, or_false, not_or]
  split_ifs <;> simp_all [Entries.get?]

theorem Gives.unique {other : String} (gives : s.Gives params name value) (gives' : s.Gives params name other) :
    value = other := Except.ok.inj (gives.given.symm.trans gives'.given)

theorem Gives.puts_iff (gives : s.Gives params name value) {part : List Char} :
    s.Puts params place (.placeholder name) part ↔ part = ((place.get? name).getD value).toList := by
  constructor
  · intro puts
    cases puts with
    | place named => rw [named, Option.getD_some]
    | param free gives' => rw [free, Option.getD_none, gives.unique gives']
  · rintro rfl
    cases named : place.get? name with
    | some text => exact .place named
    | none => exact .param named gives

/-- What stands for a declared parameter: its value, or what the place has under its name. -/
structure Shows (s : NodeSpec) (params : Params) (place : Entries String String) (name value : String) : Prop where
  free : name ∉ placeKeys → ∀ part, s.Puts params place (.placeholder name) part ↔ part = value.toList
  taken : name ∈ placeKeys → ∃ text, place.get? name = some text ∧
    ∀ part, s.Puts params place (.placeholder name) part ↔ part = text.toList

theorem Gives.shows {node chain folder : String} (gives : s.Gives params name value) :
    s.Shows params (placeNames node chain folder) name value where
  free own part := by
    rw [gives.puts_iff, placeNames_eq_none.mpr own, Option.getD_none]
  taken shared := by
    obtain ⟨text, named⟩ := Option.ne_none_iff_exists'.mp fun none => placeNames_eq_none.mp none shared
    refine ⟨text, named, fun part => ?_⟩
    rw [gives.puts_iff, named, Option.getD_some]

end Templates

section Predicates

variable {node : NodeView} {typeId : String}

theorem Gives.rawText (gives : s.Gives node.params name value) : ∃ raw, Builtin.rawText node name = .ok raw := by
  unfold Builtin.rawText
  rcases Param.given_ok_iff.mp (mapError_ok.mp gives.given) with
    ⟨v, raw, found, -, written, -⟩ | ⟨v, found, null, -⟩ | ⟨found, -⟩
  · exact ⟨raw, by rw [found, Option.map_some, Option.getD_some, written]⟩
  · rw [found]
    cases v with
    | scalar x =>
      cases x with
      | null => exact ⟨"None", rfl⟩
      | _ => cases null
    | _ => cases null
  · exact ⟨"", by rw [found]; rfl⟩

theorem predicate_ok (told : ∀ p ∈ s.params, ∃ raw, Builtin.rawText node p.1 = .ok raw) (output : String) :
    ∃ texts : Entries String String, texts.map (·.1) = s.params.map (·.1) ∧
      (∀ e ∈ texts, Builtin.rawText node e.1 = .ok e.2) ∧
      s.predicate typeId node output = .ok ⟨typeId, if output.isEmpty then texts else texts.set "output" output⟩ := by
  let tell : String × String → Except Unwritable (String × String) := fun p => do
    return (p.1, ← Builtin.rawText node p.1)
  obtain ⟨texts, made⟩ : ∃ texts, s.params.mapM tell = .ok texts := by
    refine mapM_each fun p declared => ?_
    obtain ⟨raw, here⟩ := told p declared
    exact ⟨(p.1, raw), ok_bind here⟩
  have related : List.Forall₂ (fun p e => e.1 = p.1 ∧ Builtin.rawText node p.1 = .ok e.2) s.params texts := by
    refine (mapM_ok made).imp fun p e said => ?_
    obtain ⟨raw, here, said⟩ := bind_ok said
    cases said
    exact ⟨rfl, here⟩
  refine ⟨texts, (forall₂_map_eq related fun p e same => same.1.symm).symm, fun e member => ?_, ok_bind made⟩
  obtain ⟨p, -, same, here⟩ := (forall₂_partners related).2 e member
  exact same ▸ here

/-- What a description tells: the texts of the parameters and the name of the output, which hides a parameter `output`. -/
structure Tells (s : NodeSpec) (node : NodeView) (output : String) (told : Entries String String) : Prop where
  param : ∀ p ∈ s.params, p.1 ≠ "output" ∨ output = "" →
    ∃ raw, Builtin.rawText node p.1 = .ok raw ∧ told.get? p.1 = some raw
  named : output ≠ "" → told.get? "output" = some output
  unnamed : output = "" → "output" ∉ s.params.map (·.1) → told.get? "output" = none

theorem predicate_tells (distinct : (s.params.map (·.1)).Nodup)
    (told : ∀ p ∈ s.params, ∃ raw, Builtin.rawText node p.1 = .ok raw) (output : String) :
    ∃ d, s.predicate typeId node output = .ok d ∧ d.variant = typeId ∧ s.Tells node output d.params := by
  obtain ⟨texts, names, raws, made⟩ := @predicate_ok s node typeId told output
  refine ⟨_, made, rfl, ?_, fun given => ?_, fun empty undeclared => ?_⟩
  · intro p declared kept
    have listed : p.1 ∈ texts.map (·.1) := names ▸ List.mem_map_of_mem declared
    obtain ⟨e, member, same⟩ := List.mem_map.mp listed
    have found := (Entries.get?_eq_some (names ▸ distinct)).mpr member
    refine ⟨e.2, same ▸ raws e member, ?_⟩
    rw [← same] at kept ⊢
    by_cases empty : output.isEmpty = true
    · rw [if_pos empty, found]
    · have other := kept.resolve_right fun none => empty (String.isEmpty_iff.mpr none)
      rw [if_neg empty, Entries.get?_set, if_neg other, found]
  · rw [if_neg fun empty => given (String.isEmpty_iff.mp empty), Entries.get?_set, if_pos rfl]
  · rw [if_pos (String.isEmpty_iff.mpr empty)]
    cases found : texts.get? "output" with
    | none => rfl
    | some raw => exact absurd (names ▸ List.mem_map_of_mem (Entries.mem_of_get? found)) undeclared

end Predicates

/-- For every node that is emitted, a template shows a declared parameter unless the place has its name, and a description of
    an output tells its text unless it is named `output` and the output has a name. -/
theorem parameters_shown {v : Value} {m : Manifest} (accepted : Manifest.check v = .ok m) {name : String} {s : NodeSpec}
    (listed : (name, s) ∈ m.nodes) {node : NodeView} {incoming outgoing : List Connection} {site : Site} {f : Fragment}
    (emitted : (s.nodeType m.id name).emit node incoming outgoing site = .ok f) :
    ∃ l chain, f = l.fragment ∧ site.chain node.id = .ok chain ∧ s.Filled s!"{m.id}:{name}" node outgoing site l ∧
      (∀ template text, s.Fills node.params (placeNames node.id chain (site.nodeFolder node.id)) template text ↔
        ∃ pieces parts, Template.Spells pieces template.toList ∧
          List.Forall₂ (s.Puts node.params (placeNames node.id chain (site.nodeFolder node.id))) pieces parts ∧
          text.toList = parts.flatten) ∧
      (∀ p ∈ s.params, ∃ value, s.Gives node.params p.1 value ∧
        s.Shows node.params (placeNames node.id chain (site.nodeFolder node.id)) p.1 value) ∧
      ∀ output ∈ s.outputs, ∃ d, (s.nodeType m.id name).predicate node output.1 = .ok (some d) ∧
        d.variant = s!"{m.id}:{name}" ∧ s.Tells node output.1 d.params := by
  have distinct := ((Manifest.check_distinct accepted).specs _ listed).params
  obtain ⟨l, made, rfl⟩ := map_ok emitted
  obtain ⟨chain, own, -⟩ := bind_ok made
  obtain ⟨filled, gives⟩ := listing_filled distinct made
  refine ⟨l, chain, rfl, own, filled, fun template text => fills_iff, fun p declared => ?_, fun output leaving => ?_⟩
  · obtain ⟨value, given⟩ := gives p declared
    exact ⟨value, given, given.shows⟩
  · have told : ∀ p ∈ s.params, ∃ raw, Builtin.rawText node p.1 = .ok raw := by
      intro p declared
      obtain ⟨value, given⟩ := gives p declared
      exact given.rawText
    obtain ⟨d, described, variant, tells⟩ := @predicate_tells s node s!"{m.id}:{name}" distinct told output.1
    refine ⟨d, ?_, variant, tells⟩
    simp only [nodeType, described, Except.map]

def matching : NodeSpec :=
  { displayName := "M", params := [("data", "D"), ("output", "O")], outputs := [("match", { rule := "meta l4proto $data" })] }

def matched : Manifest := { id := "x", nodes := [("m", matching)] }

theorem data_and_output_shadowed :
    ∃ (params : Params) (site : Site) (f : Fragment) (data : String) (d : Predicate),
      (matching.nodeType "x" "m").emit ⟨"n", params⟩ [] [] site = .ok f ∧
      f.script = "# n: M (x:m)\n\"$NFT\" add rule $TABLE n 'meta l4proto data/n return'" ∧
      matching.Gives params "data" data ∧ data = "tcp" ∧
      ¬ matching.Puts params (placeNames "n" "n" "data/n") (.placeholder "data") data.toList ∧
      (matching.nodeType "x" "m").predicate ⟨"n", params⟩ "match" = .ok (some d) ∧
      paramText params "output" = .ok "eth0" ∧ d.params.get? "output" = some "match" := by
  let params : Params := [("data", .text "tcp"), ("output", .text "eth0")]
  let site : Site := { chains := [("n", "n")], files := .empty (Path.ofText "/") }
  let f : Fragment :=
    { script := "# n: M (x:m)\n\"$NFT\" add rule $TABLE n 'meta l4proto data/n return'", files := [] }
  have accepted : Manifest.check matched.toValue = .ok matched := ok_of_toOption (by decide +kernel)
  have listed : ("m", matching) ∈ matched.nodes := List.mem_singleton_self _
  have emitted : (matching.nodeType "x" "m").emit ⟨"n", params⟩ [] [] site = .ok f := ok_of_toOption (by decide +kernel)
  obtain ⟨l, chain, -, own, -, -, shown, told⟩ := parameters_shown accepted listed emitted
  cases own
  obtain ⟨data, given, shows⟩ := shown ("data", "D") (List.mem_cons_self ..)
  have same : paramText params "data" = .ok "tcp" := by decide +kernel
  cases same.symm.trans given.given
  obtain ⟨text, named, only⟩ := shows.taken (by decide)
  have folder : text = "data/n" := (Option.some.inj named).symm.trans (by decide)
  obtain ⟨d, described, -, tells⟩ := told _ (List.mem_singleton_self _)
  refine ⟨params, site, f, _, d, emitted, rfl, given, rfl, fun put => ?_, described, by decide +kernel, tells.named (by decide)⟩
  exact absurd ((only _).mp put) (folder ▸ by decide)

end NodeSpec
end FilterGraph
