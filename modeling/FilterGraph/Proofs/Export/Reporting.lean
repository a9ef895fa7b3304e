import FilterGraph.Proofs.Export.Compiled
import FilterGraph.Proofs.Registry.Integrity
import FilterGraph.StaticType

namespace FilterGraph

def ExportCause.OfNode : ExportCause → Prop
  | .chainTaken .. | .cyclic .. | .unstaged .. | .unwritten .. | .notAFolder .. | .fault _ => False
  | _ => True

def EmitError.OfNode : EmitError → Prop
  | .refused e => e.cause.OfNode
  | _ => True

theorem ExportCause.OfNode.isReport {c : ExportCause} (own : c.OfNode) : c.IsReport := by
  rintro f rfl
  exact own

theorem NodeType.reports_of {t : NodeType}
    (emit : ∀ node incoming outgoing site, FailsBy EmitError.OfNode (t.emit node incoming outgoing site)) : t.Reports :=
  fun node incoming outgoing site e refused => (emit node incoming outgoing site (.refused e) refused).isReport

section Causes

theorem networks_reports (value : String) : FailsBy ExportCause.OfNode (networks value) := by
  refine (FailsBy.mapM (fun token => ?_) _).bind fun found => ?_
  · split
    · exact .done _
    · exact .failed trivial
  · split
    · exact .failed trivial
    · split
      · exact .done _
      · exact .failed trivial

theorem Criterion.expression_reports (value : String) (c : Criterion) : FailsBy ExportCause.OfNode (c.expression value) := by
  cases c with
  | interface =>
    rw [Criterion.expression]
    split
    · exact .done _
    · exact .failed trivial
  | address side => exact (networks_reports value).bind fun found => .done _
  | ports side | protocol =>
    -- no item, one that is wrong, or the items
    rw [Criterion.expression]
    dsimp only
    split
    · exact .failed trivial
    · split
      · exact .failed trivial
      · exact .done _

theorem AddressList.read_reports (path : String) (lines : List String) (number : Nat) :
    FailsBy ExportCause.OfNode (AddressList.read path number lines) := by
  induction lines generalizing number with
  | nil => exact .done _
  | cons line rest ih =>
    unfold AddressList.read
    dsimp only
    split
    · exact ih (number + 1)
    · split
      · exact .failed trivial
      · exact (ih (number + 1)).bind fun l => .done _

theorem Template.render_reports (template : String) (values : Entries String String) :
    FailsBy ExportCause.OfNode (Template.render template values) := by
  refine (FailsBy.mapM (fun piece => ?_) _).bind fun filled => .done _
  cases piece with
  | literal c => exact .done _
  | placeholder name =>
    unfold Template.fill
    dsimp only
    split
    · exact .done _
    · exact .failed trivial
  | malformed line column => exact .failed trivial

end Causes

section Parts

variable (node : NodeView) (site : Site)

theorem NodeType.resolve_reports (params : List Param) (typeId : String) :
    FailsBy EmitError.OfNode (NodeType.resolve params typeId node) := by
  refine .renamed fun e => ?_
  cases e with
  | missing p => exact trivial
  | unwritable u => trivial

theorem NodeView.header_reports (displayName typeId : String) :
    FailsBy EmitError.OfNode (node.header displayName typeId) :=
  .bind (.renamed fun _ => trivial) fun _ => .done _

theorem Site.chain_reports (id : String) : FailsBy EmitError.OfNode (site.chain id) := by
  unfold Site.chain
  split
  · exact .done _
  · exact .failed trivial

theorem Site.portVerdict_reports (outgoing : List Connection) (port : String) :
    FailsBy EmitError.OfNode (site.portVerdict outgoing port) := by
  unfold Site.portVerdict Site.verdict
  split
  · exact .done _
  · exact (site.chain_reports _).map _

end Parts

section Listings

variable (node : NodeView) (outgoing : List Connection) (site : Site)

theorem AddressList.load_reports (path : String) : FailsBy EmitError.OfNode (AddressList.load site node.id path) := by
  unfold AddressList.load
  split
  · split
    · split
      · exact .failed trivial
      · split
        · exact .failed trivial
        · exact .failed trivial
    · split
      · exact .failed trivial
      · exact .failed trivial
      · exact .failed trivial
      · exact (AddressList.read_reports _ _ _).mapError fun cause report => report
  · exact .failed trivial

namespace Builtin

theorem header_reports (b : Builtin) : FailsBy EmitError.OfNode (b.header node) :=
  (node.header_reports _ _).map _

theorem filterListing_reports (criterion : Criterion) :
    FailsBy EmitError.OfNode (filterListing criterion node outgoing site) := by
  refine (NodeType.resolve_reports node _ _).bind fun values => ?_
  refine (site.chain_reports _).bind fun chain => ?_
  refine .bind ((criterion.expression_reports _).mapError fun cause report => report) fun expression => ?_
  refine (header_reports node _).bind fun header => ?_
  exact (site.portVerdict_reports _ _).bind fun onMatch => (site.portVerdict_reports _ _).bind fun otherwise => .done _

theorem addressListListing_reports : FailsBy EmitError.OfNode (addressListListing node outgoing site) := by
  refine (NodeType.resolve_reports node _ _).bind fun values => ?_
  dsimp only
  split
  · refine .bind (.done _) fun selector => ?_
    refine (AddressList.load_reports node site _).bind fun list => ?_
    refine (site.chain_reports _).bind fun chain => ?_
    refine (site.portVerdict_reports _ _).bind fun onMatch => ?_
    exact (header_reports node _).bind fun header => (site.portVerdict_reports _ _).bind fun otherwise => .done _
  · exact .failed trivial

theorem splitterListing_reports : FailsBy EmitError.OfNode (splitterListing node outgoing site) := by
  refine (site.chain_reports _).bind fun chain => (header_reports node _).bind fun header => ?_
  exact (site.portVerdict_reports _ _).bind fun v4 => (site.portVerdict_reports _ _).bind fun v6 => .done _

theorem natListing_reports (side : Side) : FailsBy EmitError.OfNode (natListing side node outgoing site) := by
  refine (NodeType.resolve_reports node _ _).bind fun values => ?_
  refine .bind ((networks_reports _).mapError fun cause report => report) fun found => ?_
  dsimp only
  split
  · refine .bind (.done _) fun target => (site.chain_reports _).bind fun chain => ?_
    exact (header_reports node _).bind fun header => (site.portVerdict_reports _ _).bind fun next => .done _
  · exact .failed trivial

theorem terminalListing_reports (b : Builtin) (verdict : Verdict) :
    FailsBy EmitError.OfNode (terminalListing b verdict node site) :=
  (site.chain_reports _).bind fun _ => (header_reports node _).bind fun _ => .done _

theorem emit_reports (b : Builtin) (incoming : List Connection) :
    FailsBy EmitError.OfNode (b.nodeType.emit node incoming outgoing site) := by
  refine .map ?_ _
  cases b with
  | source => exact .done _
  | localhost => exact .done _
  | filter criterion => exact filterListing_reports node outgoing site criterion
  | addressList => exact addressListListing_reports node outgoing site
  | familySplitter => exact splitterListing_reports node outgoing site
  | nat side => exact natListing_reports node outgoing site side
  | drop => exact terminalListing_reports node site .drop .drop
  | accept => exact terminalListing_reports node site .accept .accept

theorem reports (b : Builtin) : b.nodeType.Reports :=
  NodeType.reports_of fun node incoming outgoing site => emit_reports node outgoing site b incoming

end Builtin

namespace NodeSpec

theorem render_reports (values : Entries String String) (template : String) :
    FailsBy EmitError.OfNode (render node values template) :=
  (Template.render_reports _ _).mapError fun _ report => report

theorem listing_reports (s : NodeSpec) (typeId : String) :
    FailsBy EmitError.OfNode (s.listing typeId node outgoing site) := by
  refine (site.chain_reports _).bind fun chain => .bind ?_ fun values => ?_
  · refine (NodeType.resolve_reports node _ _).bind fun values => ?_
    split
    · exact .failed trivial
    · exact .done _
  refine (node.header_reports _ _).bind fun header => ?_
  refine (FailsBy.mapM (render_reports node _) _).bind fun setup => ?_
  refine (FailsBy.mapM (fun output => ?_) _).bind fun rules => ?_
  · exact (render_reports node _ _).bind fun rule => (site.portVerdict_reports _ _).bind fun verdict => .done _
  · exact (FailsBy.mapM (fun file => (render_reports node _ _).bind fun content => .done _) _).bind fun files => .done _

theorem emit_reports (extension name : String) (s : NodeSpec) (incoming : List Connection) :
    FailsBy EmitError.OfNode ((s.nodeType extension name).emit node incoming outgoing site) :=
  (listing_reports node outgoing site s _).map _

theorem reports (extension name : String) (s : NodeSpec) : (s.nodeType extension name).Reports :=
  NodeType.reports_of fun node incoming outgoing site => emit_reports node outgoing site extension name s incoming

end NodeSpec

theorem StaticType.reports (t : StaticType) : t.nodeType.Reports := by
  refine NodeType.reports_of fun node incoming outgoing site => ?_
  show FailsBy EmitError.OfNode (t.emit node incoming outgoing site)
  unfold StaticType.emit
  split
  · exact .failed trivial
  · exact .failed trivial
  · exact .failed trivial
  · exact .failed trivial
  · refine (node.header_reports _ _).bind fun header => ?_
    dsimp only
    split
    · exact (NodeType.resolve_reports node _ _).bind fun values => .done _
    · exact .done _

end Listings

section Registries

def Registry.Reports (r : Registry) : Prop := ∀ t ∈ r.types, t.Reports

theorem Registry.builtin_reports : Registry.builtin.Reports := by
  intro t member
  obtain ⟨b, -, rfl⟩ := List.mem_map.mp member
  exact b.reports

theorem Manifest.nodeTypes_report (m : Manifest) : ∀ t ∈ m.nodeTypes, t.Reports := by
  intro t member
  obtain ⟨⟨name, spec⟩, -, rfl⟩ := List.mem_map.mp member
  exact spec.reports m.id name

variable {r next : Registry} (all : r.Reports)

include all

theorem Registry.Reports.load {b : Bundle} {isNew : Bool} (brought : ∀ t ∈ b.types, t.Reports)
    (loading : r.load b = .ok (next, isNew)) : next.Reports := by
  rcases load_cases r b with ⟨-, same⟩ | ⟨-, -, refused⟩ | ⟨-, -, added⟩ | ⟨-, -, refused⟩
  · cases same.symm.trans loading
    exact all
  · cases refused.symm.trans loading
  · cases added.symm.trans loading
    exact List.forall_mem_append.mpr ⟨all, brought⟩
  · cases refused.symm.trans loading

theorem Registry.Reports.loadManifest {m : Manifest} {source? : Option Path} {isNew : Bool}
    (loading : r.load (.ofManifest m source?) = .ok (next, isNew)) : next.Reports :=
  all.load m.nodeTypes_report loading

theorem Graph.WellFormed.reports {g : Graph} (wf : g.WellFormed r) : ∀ n ∈ g.nodes, n.type.Reports :=
  fun n member => all _ (List.mem_of_find?_eq_some (wf.types n member))

end Registries

end FilterGraph
