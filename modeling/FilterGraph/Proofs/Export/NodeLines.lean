import FilterGraph.Proofs.Coloring.Direction
import FilterGraph.Proofs.Export.Marks

namespace FilterGraph

/-- The node types that come with the program, and those of manifests that pass their checks. -/
inductive NodeType.Standard : NodeType → Prop
  | builtin (b : Builtin) : Standard b.nodeType
  | manifest {v : Value} {m : Manifest} (checked : Manifest.check v = .ok m) {name : String} {spec : NodeSpec}
      (listed : (name, spec) ∈ m.nodes) : Standard (spec.nodeType m.id name)

inductive NodeType.Lists (node : NodeView) (outgoing : List Connection) (site : Site) : NodeType → Listing → Prop
  | builtin {b : Builtin} {l : Listing} (listed : b.listing node outgoing site = .ok l) : Lists node outgoing site b.nodeType l
  | manifest {extension name : String} {spec : NodeSpec} {l : Listing}
      (listed : spec.listing s!"{extension}:{name}" node outgoing site = .ok l) :
      Lists node outgoing site (spec.nodeType extension name) l

theorem Builtin.mem_all (b : Builtin) : b ∈ all := by
  cases b with
  | filter criterion => cases criterion with
    | interface | protocol => decide
    | address side | ports side => cases side <;> decide
  | nat side => cases side <;> decide
  | _ => decide

theorem NodeType.Standard.singleEntry {t : NodeType} (standard : t.Standard) : t.SingleEntry := by
  cases standard with
  | builtin b => exact Registry.builtin_singleEntry (List.mem_map_of_mem b.mem_all)
  | manifest checked listed => exact Manifest.nodeTypes_singleEntry checked (List.mem_map.mpr ⟨_, listed, rfl⟩)

namespace ScriptLine

def declared? : ScriptLine → Option String
  | .addChain name _ => some name
  | _ => none

def extended? : ScriptLine → Option String
  | .rule r => some r.chain
  | .statement chain _ => some chain
  | _ => none

inductive OfNode (node : NodeView) (outgoing : List Connection) (site : Site) : ScriptLine → Prop
  | text (s : String) : OfNode node outgoing site (.text s)
  | addSet (name elementType : String) : OfNode node outgoing site (.addSet name elementType)
  | fillSet (name file : String) (colons : Bool) : OfNode node outgoing site (.fillSet name file colons)
  | rule {r : Rule} (placed : r.Placed node outgoing site) : OfNode node outgoing site (.rule r)

variable {node : NodeView} {outgoing : List Connection} {site : Site} {line : ScriptLine}

theorem OfNode.declared? (own : line.OfNode node outgoing site) : line.declared? = none := by
  cases own <;> rfl

theorem OfNode.extended? (own : line.OfNode node outgoing site) {chain : String} (extends' : line.extended? = some chain) :
    chain = chainName node.id := by
  cases own with
  | rule placed => exact (Option.some.inj extends').symm.trans placed.chain
  | _ => cases extends'

theorem ofNode_rules (texts : List String) {rules : List Rule} (placed : ∀ r ∈ rules, r.Placed node outgoing site) :
    ∀ line ∈ texts.map text ++ rules.map rule, line.OfNode node outgoing site := by
  intro line member
  rcases List.mem_append.mp member with said | ruled
  · obtain ⟨s, -, rfl⟩ := List.mem_map.mp said
    exact .text s
  · obtain ⟨r, listed, rfl⟩ := List.mem_map.mp ruled
    exact .rule (placed r listed)

end ScriptLine

structure Listing.Placed (t : NodeType) (node : NodeView) (outgoing : List Connection) (site : Site) (l : Listing) : Prop where
  lines : ∀ line ∈ l.lines, line.OfNode node outgoing site
  solid : (ScriptLine.joined l.lines).isEmpty = false
  hooks : ∀ hook, hook ∈ l.nat.map (·.1) ↔ ∃ side : Side, hook = side.hook ∧ t = (Builtin.nat side).nodeType

section Listings

variable {node : NodeView} {outgoing : List Connection} {site : Site} {l : Listing}

open ScriptLine

theorem AddressList.familyLines_placed {file selector : String} {isV4 : Bool} {entries : List Network} {v : Verdict}
    (placed : ∀ condition, Rule.Placed node outgoing site ⟨chainName node.id, condition, v⟩) :
    ∀ line ∈ familyLines (chainName node.id) file selector isV4 entries v, line.OfNode node outgoing site := by
  intro line member
  rcases List.mem_append.mp member with sets | last
  · rcases List.mem_cons.mp sets with rfl | filled
    · exact .addSet _ _
    · split at filled
      · cases filled
      · rw [List.mem_singleton.mp filled]
        exact .fillSet _ _ _
  · rw [List.mem_singleton.mp last]
    exact .rule (placed _)

theorem Rule.placed_decided {v : Verdict} (decides : ∀ target, v ≠ .goto target) (condition : Condition) :
    Rule.Placed node outgoing site ⟨chainName node.id, condition, v⟩ :=
  ⟨rfl, fun target goto => absurd goto (decides target)⟩

theorem Listing.placed_plain {t : NodeType} {files : Entries String String} {lines : List ScriptLine}
    (plain : ∀ side, t ≠ (Builtin.nat side).nodeType) (own : ∀ line ∈ lines, line.OfNode node outgoing site)
    (solid : (joined lines).isEmpty = false) : Listing.Placed t node outgoing site { lines, files } := by
  refine ⟨own, solid, fun hook => ⟨nofun, ?_⟩⟩
  rintro ⟨side, -, nat⟩
  exact absurd nat (plain side)

namespace Builtin

theorem nodeType_ne {a b : Builtin} (differ : a ≠ b) : a.nodeType ≠ b.nodeType := fun same => differ (nodeType_inj same)

theorem filterListing_placed {criterion : Criterion} (named : site.Named)
    (listed : filterListing criterion node outgoing site = .ok l) :
    l.Placed (filter criterion).nodeType node outgoing site := by
  obtain ⟨text, expression, onMatch, otherwise, -, matching, others, rfl⟩ := Kind.filterListing_ok named listed
  refine Listing.placed_plain (fun side => nodeType_ne nofun) ?_ (joined_closed rfl (rule_closed _)).not_isEmpty
  simp only [List.forall_mem_cons]
  exact ⟨.text _, .rule (Site.portVerdict_placed matching _), .rule (Site.portVerdict_placed others _), nofun⟩

theorem addressListListing_placed (named : site.Named) (listed : addressListListing node outgoing site = .ok l) :
    l.Placed addressList.nodeType node outgoing site := by
  obtain ⟨text, file, selector, onMatch, otherwise, list, -, matching, others, rfl⟩ :=
    Kind.addressListListing_ok named listed
  refine Listing.placed_plain (fun side => nodeType_ne nofun) ?_
    (joined_closed List.getLast?_concat (rule_closed _)).not_isEmpty
  simp only [List.forall_mem_append, List.cons_append, List.forall_mem_cons]
  refine ⟨.text _, ⟨?_, ?_⟩, .rule (Site.portVerdict_placed others _), nofun⟩
  · exact AddressList.familyLines_placed (Site.portVerdict_placed matching)
  · exact AddressList.familyLines_placed (Site.portVerdict_placed matching)

theorem splitterListing_placed (named : site.Named) (listed : splitterListing node outgoing site = .ok l) :
    l.Placed familySplitter.nodeType node outgoing site := by
  obtain ⟨text, v4, v6, first, second, rfl⟩ := Kind.splitterListing_ok named listed
  refine Listing.placed_plain (fun side => nodeType_ne nofun) ?_ (joined_closed rfl (rule_closed _)).not_isEmpty
  simp only [List.forall_mem_cons]
  exact ⟨.text _, .rule (Site.portVerdict_placed first _), .rule (Site.portVerdict_placed second _), nofun⟩

theorem natListing_placed {side : Side} (named : site.Named) (listed : natListing side node outgoing site = .ok l) :
    l.Placed (nat side).nodeType node outgoing site := by
  obtain ⟨text, target, next, going, rfl⟩ := Kind.natListing_ok named listed
  constructor
  case lines =>
    simp only [List.forall_mem_cons]
    exact ⟨.text _, .rule (Rule.placed_decided (fun _ => Verdict.noConfusion) _), .rule (Site.portVerdict_placed going _), nofun⟩
  case solid => exact (joined_closed rfl (rule_closed _)).not_isEmpty
  case hooks =>
    intro hook
    simp only [List.map_cons, List.map_nil, List.mem_singleton]
    constructor
    · rintro rfl
      exact ⟨side, rfl, rfl⟩
    · rintro ⟨other, rfl, same⟩
      cases nodeType_inj same
      rfl

theorem terminalListing_placed {b : Builtin} {v : Verdict} (plain : ∀ side, b ≠ nat side)
    (decides : ∀ target, v ≠ .goto target) (named : site.Named) (listed : terminalListing b v node site = .ok l) :
    l.Placed b.nodeType node outgoing site := by
  obtain ⟨text, rfl⟩ := Kind.terminalListing_ok named listed
  refine Listing.placed_plain (fun side => nodeType_ne (plain side)) ?_ (joined_closed rfl (rule_closed _)).not_isEmpty
  simp only [List.forall_mem_cons]
  exact ⟨.text _, .rule (Rule.placed_decided decides _), nofun⟩

theorem listing_placed {b : Builtin} (inner : b ≠ source ∧ b ≠ localhost) (named : site.Named)
    (listed : b.listing node outgoing site = .ok l) : l.Placed b.nodeType node outgoing site := by
  cases b with
  | source => exact absurd rfl inner.1
  | localhost => exact absurd rfl inner.2
  | filter criterion => exact filterListing_placed named listed
  | addressList => exact addressListListing_placed named listed
  | familySplitter => exact splitterListing_placed named listed
  | nat side => exact natListing_placed named listed
  | drop => exact terminalListing_placed nofun (fun _ => Verdict.noConfusion) named listed
  | accept => exact terminalListing_placed nofun (fun _ => Verdict.noConfusion) named listed

end Builtin

theorem ScriptLine.joined_cons_isEmpty {first : ScriptLine} {rest : List ScriptLine}
    (solid : first.toText.isEmpty = false) : (joined (first :: rest)).isEmpty = false := by
  rw [joined, List.map_cons]
  cases rest.map toText with
  | nil => rwa [String.intercalate_singleton]
  | cons second others =>
    rw [String.intercalate_cons_cons]
    simp

theorem NodeSpec.listing_placed {spec : NodeSpec} {extension name : String} (named : site.Named)
    (listed : spec.listing s!"{extension}:{name}" node outgoing site = .ok l) :
    l.Placed (spec.nodeType extension name) node outgoing site := by
  obtain ⟨header, files, conditions, setup, rules, closed, -, -, placed, -, rfl⟩ := NodeSpec.listing_ok named listed
  have plain : ∀ side, spec.nodeType extension name ≠ (Builtin.nat side).nodeType :=
    fun side same => (Builtin.nat side).kind_ne (congrArg NodeType.kind same).symm
  refine Listing.placed_plain plain ?_ (joined_cons_isEmpty closed.not_isEmpty)
  exact ofNode_rules (header :: setup) placed

theorem NodeType.Lists.placed {t : NodeType} (lists : t.Lists node outgoing site l)
    (inner : t ≠ Builtin.source.nodeType ∧ t ≠ Builtin.localhost.nodeType) (named : site.Named) :
    l.Placed t node outgoing site := by
  cases lists with
  | @builtin b _ listed =>
    have other : b ≠ .source ∧ b ≠ .localhost := ⟨fun same => inner.1 (same ▸ rfl), fun same => inner.2 (same ▸ rfl)⟩
    exact Builtin.listing_placed other named listed
  | manifest listed => exact NodeSpec.listing_placed named listed

theorem NodeType.Standard.emitted {t : NodeType} (standard : t.Standard) {incoming : List Connection} {f : Fragment}
    (emitted : t.emit node incoming outgoing site = .ok f) : ∃ l : Listing, f = l.fragment ∧ t.Lists node outgoing site l := by
  cases standard with
  | builtin b =>
    obtain ⟨l, listed, rfl⟩ := map_ok emitted
    exact ⟨l, rfl, .builtin listed⟩
  | manifest checked member =>
    obtain ⟨l, listed, rfl⟩ := map_ok emitted
    exact ⟨l, rfl, .manifest listed⟩

end Listings

end FilterGraph
