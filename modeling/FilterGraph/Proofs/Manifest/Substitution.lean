import FilterGraph.Proofs.Export.ManifestListing
import FilterGraph.Proofs.Manifest.Emission

namespace FilterGraph

section Characters

def SafeText (s : String) : Prop := ∀ c ∈ s.toList, c.isAlphanum = true ∨ c ∈ ['_', '.', ':', '/', ',', '@', '+', '-']

/-- The pattern lets one blank through, a line feed at the end. -/
theorem isSafeValue_iff {s : String} (last : ∀ c, s.toList.getLast? = some c → Text.isBlank c = false) :
    isSafeValue s = true ↔ SafeText s := by
  have solid : (s.toList.getLast? == some '\n') = false := by
    refine beq_false_of_ne fun feed => ?_
    exact absurd (last '\n' feed) (by decide)
  simp only [isSafeValue, solid, Bool.false_eq_true, if_false, List.all_eq_true, isSafeChar, Bool.or_eq_true,
    List.contains_iff_mem]
  rfl

theorem Param.given_last {p : Param} {params : Params} {text : String} (given : p.given params = .ok text) {c : Char}
    (last : text.toList.getLast? = some c) : Text.isBlank c = false := by
  rcases Param.given_ok_iff.mp given with ⟨-, whole, -, -, -, rfl⟩ | ⟨-, -, -, rfl⟩ | ⟨-, rfl⟩
  · exact Text.trim_last last
  · cases last
  · exact Text.trim_last last

end Characters

namespace NodeSpec

section Values
variable {s : NodeSpec} {typeId : String} {node : NodeView} {values : Entries String String}

/-- What a node gives for a declared parameter: a text of safe characters. -/
structure Gives (s : NodeSpec) (params : Params) (name text : String) : Prop where
  declared : ∃ label, (name, label) ∈ s.params
  given : paramText params name = .ok text
  safe : SafeText text

theorem safeValues_ok (distinct : (s.params.map (·.1)).Nodup) (safe : s.safeValues typeId node = .ok values) :
    values.map (·.1) = s.params.map (·.1) ∧ ∀ e ∈ values, s.Gives node.params e.1 e.2 := by
  obtain ⟨found, resolved, safe⟩ := bind_ok safe
  rw [NodeType.resolve, resolve_eq _ distinct] at resolved
  have related := mapM_ok (mapError_ok.mp resolved)
  split at safe
  · cases safe
  · rename_i passed
    cases safe
    have each : List.Forall₂ (fun p e => e.1 = p.1 ∧ paramText node.params p.1 = .ok e.2) s.params values := by
      refine related.imp fun p e made => ?_
      obtain ⟨text, given, made⟩ := bind_ok made
      cases made
      exact ⟨rfl, given⟩
    refine ⟨(forall₂_map_eq each fun p e same => same.1.symm).symm, fun e member => ?_⟩
    obtain ⟨p, listed, name, given⟩ := (forall₂_partners each).2 e member
    rw [← name] at given
    have matched : isSafeValue e.2 = true := by
      simpa using List.find?_eq_none.mp passed e member
    have last := fun c => Param.given_last (mapError_ok.mp given) (c := c)
    exact ⟨⟨p.2, name ▸ listed⟩, given, (isSafeValue_iff last).mp matched⟩

end Values

section Templates

def placeNames (node chain folder : String) : Entries String String :=
  [("node_id", node), ("chain", chain), ("data", folder), ("NFT", "\"$NFT\""), ("TABLE", "$TABLE")]

/-- What stands in a text for one piece of its template. -/
inductive Puts (s : NodeSpec) (params : Params) (place : Entries String String) : Template.Piece → List Char → Prop
  | literal (c : Char) : Puts s params place (.literal c) [c]
  | place {name text : String} (named : place.get? name = some text) : Puts s params place (.placeholder name) text.toList
  | param {name text : String} (free : place.get? name = none) (given : s.Gives params name text) :
      Puts s params place (.placeholder name) text.toList

def Fills (s : NodeSpec) (params : Params) (place : Entries String String) (template text : String) : Prop :=
  ∃ parts, List.Forall₂ (s.Puts params place) (Template.pieces template) parts ∧ text.toList = parts.flatten

theorem get?_placed (values : Entries String String) (node chain folder name : String) :
    (bindings values node chain folder).get? name = ((placeNames node chain folder).get? name).or (values.get? name) := by
  have names : (placeNames node chain folder).map (·.1) = ["node_id", "chain", "data", "NFT", "TABLE"] := rfl
  exact Entries.get?_foldl_set_distinct _ _ (names ▸ by decide) name

theorem render_fills {s : NodeSpec} {node : NodeView} {values : Entries String String} {chain folder template text : String}
    (gives : ∀ e ∈ values, s.Gives node.params e.1 e.2)
    (rendered : render node (bindings values node.id chain folder) template = .ok text) :
    s.Fills node.params (placeNames node.id chain folder) template text := by
  obtain ⟨parts, filled, rendered⟩ := bind_ok (mapError_ok.mp rendered)
  cases rendered
  refine ⟨parts, (mapM_ok filled).imp fun piece part put => ?_, String.toList_ofList⟩
  cases piece with
  | literal c =>
    cases put
    exact .literal c
  | malformed line column => cases put
  | placeholder name =>
    rw [Template.fill, get?_placed] at put
    cases named : (placeNames node.id chain folder).get? name with
    | some value =>
      rw [named] at put
      cases put
      exact .place named
    | none =>
      rw [named, Option.none_or] at put
      cases found : Entries.get? name values with
      | none =>
        rw [found] at put
        cases put
      | some value =>
        rw [found] at put
        cases put
        exact .param named (gives _ (Entries.mem_of_get? found))

end Templates

section Listings
variable {s : NodeSpec} {typeId : String} {node : NodeView} {outgoing : List Connection} {site : Site}

inductive Filled (s : NodeSpec) (typeId : String) (node : NodeView) (outgoing : List Connection) (site : Site) :
    Listing → Prop
  | mk {header chain : String} {setup : List String} {rules : List ScriptLine} {files : Entries String String}
      (headed : node.header s.displayName typeId = .ok header) (own : site.chain node.id = .ok chain)
      (prepared : List.Forall₂ (s.Fills node.params (placeNames node.id chain (site.nodeFolder node.id))) s.setup setup)
      (ruled : List.Forall₂ (fun output line => ∃ text verdict,
        s.Fills node.params (placeNames node.id chain (site.nodeFolder node.id)) output.2.rule text ∧
        site.portVerdict outgoing output.1 = .ok verdict ∧
        line = ruleLine ⟨chain, condition (Text.trim text), verdict⟩) s.outputs rules)
      (filed : List.Forall₂ (fun template file => file.1 = template.1 ∧
        s.Fills node.params (placeNames node.id chain (site.nodeFolder node.id)) template.2 file.2) s.files files) :
      Filled s typeId node outgoing site { lines := .text header :: setup.map .text ++ rules, files }

theorem listing_filled {l : Listing} (distinct : (s.params.map (·.1)).Nodup)
    (listed : s.listing typeId node outgoing site = .ok l) :
    s.Filled typeId node outgoing site l ∧ ∀ p ∈ s.params, ∃ text, s.Gives node.params p.1 text := by
  obtain ⟨chain, own, listed⟩ := bind_ok listed
  obtain ⟨values, safe, listed⟩ := bind_ok listed
  obtain ⟨header, headed, listed⟩ := bind_ok listed
  obtain ⟨setup, prepared, listed⟩ := bind_ok listed
  obtain ⟨rules, ruled, listed⟩ := bind_ok listed
  obtain ⟨files, filed, listed⟩ := bind_ok listed
  cases listed
  obtain ⟨names, gives⟩ := safeValues_ok distinct safe
  refine ⟨.mk headed own ((mapM_ok prepared).imp fun _ _ => render_fills gives) ?_ ?_, fun p declared => ?_⟩
  · refine (mapM_ok ruled).imp fun output line made => ?_
    obtain ⟨text, rendered, made⟩ := bind_ok made
    obtain ⟨verdict, going, made⟩ := bind_ok made
    exact ⟨text, verdict, render_fills gives rendered, going, (Except.ok.inj made).symm⟩
  · refine (mapM_ok filed).imp fun template file made => ?_
    obtain ⟨text, rendered, made⟩ := bind_ok made
    cases made
    exact ⟨rfl, render_fills gives rendered⟩
  · have named : p.1 ∈ values.map (·.1) := names ▸ List.mem_map_of_mem declared
    obtain ⟨e, found, same⟩ := List.mem_map.mp named
    exact ⟨e.2, same ▸ gives e found⟩

end Listings

section Failures
variable {s : NodeSpec} {typeId : String} {node : NodeView} {outgoing : List Connection} {site : Site}

end Failures

end NodeSpec
end FilterGraph
