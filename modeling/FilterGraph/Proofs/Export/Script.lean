import FilterGraph.Proofs.Export.ManifestListing
import FilterGraph.Proofs.Export.Plan
import FilterGraph.Proofs.Normalization.Result

namespace FilterGraph

namespace Script

def text (sections : List (List ScriptLine)) : String :=
  "\n\n".intercalate (sections.map ScriptLine.joined) ++ "\n"

def rules (sections : List (List ScriptLine)) : List Rule := sections.flatten.filterMap ScriptLine.rule?

end Script

namespace Plan

def listing (p : Plan) (kind : String → Kind) (s : Settings) (files : FileTree) :
    String × Nat → Except ExportError (String × Listing) := fun (id, mark) =>
  match p.analysis.graph.node? id with
  | none => .error ⟨some id, .failed "UnknownNode" (s!"Unknown node '{id}'")⟩
  | some n =>
    (((kind id).listing n.view (p.analysis.graph.outgoing id) (p.site s files mark id)).mapError
      (EmitError.toExportError id n.type.typeId)).map fun l => (id, l)

def listings (p : Plan) (kind : String → Kind) (s : Settings) (files : FileTree) :
    Except ExportError (Entries String Listing) :=
  p.marked.mapM (p.listing kind s files)

def emissions (ls : Entries String Listing) : List Emission := ls.map fun (id, l) => ⟨id, l.fragment⟩

def scriptLines (p : Plan) (s : Settings) (ls : Entries String Listing) : List (List ScriptLine) :=
  let nat := Emission.statements (emissions ls)
  Script.preamble s p.analysis.graph p.chains :: ls.map (·.2.lines) ++
    (if nat.isEmpty then [] else [Script.natLines nat]) ++ [Script.epilogue]

end Plan

def Graph.scriptLines (g : Graph) (kind : String → Kind) (s : Settings) (files : FileTree) :
    Except ExportError (List (List ScriptLine)) := do
  let p ← Plan.ofAnalysis g.analyze
  let ls ← p.listings kind s files
  return p.scriptLines s ls

def Graph.Known (g : Graph) (kind : String → Kind) : Prop := ∀ n ∈ g.nodes, n.type = (kind n.id).nodeType

theorem Fragment.problem?_plain {f : Fragment} {s : Settings} (plain : f.files = [])
    (hooks : (f.nat.findSome? fun (hook, _) => s.hookProblem? hook) = none) : f.problem? s = none := by
  rw [problem?, sortedFiles, plain, List.mergeSort_nil]
  exact hooks

namespace Plan

variable {p : Plan} {kind : String → Kind} {s : Settings} {files : FileTree}

theorem listing_ok {id : String} {mark : Nat} {e : String × Listing}
    (listed : p.listing kind s files (id, mark) = .ok e) :
    ∃ n, p.analysis.graph.node? id = some n ∧ e.1 = id ∧
      (kind id).listing n.view (p.analysis.graph.outgoing id) (p.site s files mark id) = .ok e.2 := by
  unfold listing at listed
  cases found : p.analysis.graph.node? id with
  | none =>
    simp only [found] at listed
    cases listed
  | some n =>
    simp only [found] at listed
    obtain ⟨l, made, rfl⟩ := map_ok listed
    exact ⟨n, rfl, rfl, mapError_ok.mp made⟩

theorem emit_ok (known : p.analysis.graph.Known kind) {id : String} {mark : Nat} {e : Emission}
    (done : p.emit s files mark id = .ok e) :
    ∃ l, p.listing kind s files (id, mark) = .ok (id, l) ∧ e = ⟨id, l.fragment⟩ := by
  obtain ⟨n, found, own, made, -⟩ := emit_made done
  obtain ⟨member, rfl⟩ := Graph.node?_mem found
  rw [emitted, known n member, Kind.emit_eq] at made
  obtain ⟨l, listed, fragment⟩ := map_ok made
  refine ⟨l, ?_, ?_⟩
  · rw [listing, found]
    simp only [listed]
    rfl
  · rw [fragment, ← own]

theorem emitAll_ok (known : p.analysis.graph.Known kind) {nodes : List (String × Nat)} {es : List Emission}
    (emitted : p.emitAll s files nodes = (es, none)) :
    ∃ ls, nodes.mapM (p.listing kind s files) = .ok ls ∧ es = emissions ls := by
  induction nodes generalizing es with
  | nil =>
    cases emitted
    exact ⟨[], rfl, rfl⟩
  | cons node rest ih =>
    obtain ⟨id, mark⟩ := node
    rw [emitAll] at emitted
    cases first : p.emit s files mark id with
    | error e =>
      simp only [first] at emitted
      cases emitted
    | ok e =>
      simp only [first] at emitted
      obtain ⟨l, listed, rfl⟩ := emit_ok known first
      cases later : p.emitAll s files rest with
      | mk others failed =>
        rw [later] at emitted
        cases emitted
        obtain ⟨ls, all, rfl⟩ := ih later
        refine ⟨(id, l) :: ls, ?_, rfl⟩
        rw [List.mapM_cons, listed, all]
        rfl

theorem emit_eq (known : p.analysis.graph.Known kind) {id : String} {mark : Nat} {e : String × Listing}
    (listed : p.listing kind s files (id, mark) = .ok e) (fine : e.2.fragment.problem? s = none) :
    p.emit s files mark id = .ok ⟨e.1, e.2.fragment⟩ := by
  obtain ⟨n, found, rfl, made⟩ := listing_ok listed
  obtain ⟨member, same⟩ := Graph.node?_mem found
  have made' : p.emitted s files mark n = .ok e.2.fragment := by
    rw [emitted, same, known n member, Kind.emit_eq, same, made]
    rfl
  exact emit_of_fragment found made' fine

theorem emitAll_eq (known : p.analysis.graph.Known kind) {nodes : List (String × Nat)} {ls : Entries String Listing}
    (listed : nodes.mapM (p.listing kind s files) = .ok ls) (fine : ∀ e ∈ ls, e.2.fragment.problem? s = none) :
    p.emitAll s files nodes = (emissions ls, none) := by
  induction nodes generalizing ls with
  | nil =>
    cases listed
    rfl
  | cons node rest ih =>
    obtain ⟨id, mark⟩ := node
    rw [List.mapM_cons] at listed
    obtain ⟨e, first, listed⟩ := bind_ok listed
    obtain ⟨others, later, listed⟩ := bind_ok listed
    cases listed
    have emitted := emit_eq known first (fine e List.mem_cons_self)
    have all := ih later fun other member => fine other (List.mem_cons_of_mem _ member)
    rw [emitAll, emitted]
    simp only [all]
    rfl

theorem site_named (complete : p.Complete) (mark : Nat) (id : String) : (p.site s files mark id).Named :=
  fun _ _ found => (complete.get?_chains.mp found).2

theorem kind_inner {r : Registry} {g : Graph} (sound : g.Sound r) (known : g.Known kind) {id : String} {n : Node}
    (found : g.node? id = some n) (inner : isPermanentId id = false) :
    ∀ b, kind id = .builtin b → b ≠ .source ∧ b ≠ .localhost := by
  obtain ⟨member, rfl⟩ := Graph.node?_mem found
  obtain ⟨source, localhost⟩ := sound.paired n member
  obtain ⟨notSource, notLocalhost⟩ := Bool.or_eq_false_iff.mp inner
  intro b same
  have type := known n member
  rw [same] at type
  constructor
  · rintro rfl
    exact ne_of_beq_false notSource (source.mp (by rw [type]; rfl))
  · rintro rfl
    exact ne_of_beq_false notLocalhost (localhost.mp (by rw [type]; rfl))

structure Listed (p : Plan) (kind : String → Kind) (s : Settings) (files : FileTree)
    (ls : Entries String Listing) : Prop where
  keys : ls.map (·.1) = p.marked.map (·.1)
  entries : ∀ e ∈ ls, ∃ n mark, p.analysis.graph.node? e.1 = some n ∧ (e.1, mark) ∈ p.marked ∧
    (kind e.1).listing n.view (p.analysis.graph.outgoing e.1) (p.site s files mark e.1) = .ok e.2 ∧
    (kind e.1).Realized n.view (p.analysis.graph.outgoing e.1) (p.site s files mark e.1) e.2

theorem listings_ok {r : Registry} (complete : p.Complete) (sound : p.analysis.graph.Sound r)
    (known : p.analysis.graph.Known kind) {ls : Entries String Listing} (listed : p.listings kind s files = .ok ls) :
    p.Listed kind s files ls := by
  have related := mapM_ok listed
  constructor
  case keys =>
    refine (forall₂_map_eq related fun node e made => ?_).symm
    obtain ⟨_, -, same, -⟩ := listing_ok made
    exact same.symm
  case entries =>
    intro e member
    obtain ⟨⟨id, mark⟩, present, made⟩ := (forall₂_partners related).2 e member
    obtain ⟨n, found, rfl, listing⟩ := listing_ok made
    have inner := kind_inner sound known found (mem_marked.mp present).2
    exact ⟨n, mark, found, present, listing, Kind.listing_realized inner (site_named complete mark e.1) listing⟩

end Plan

theorem Fragment.section?_eq {f : Fragment} (solid : f.script.isEmpty = false) :
    f.section? = some (withoutFeeds f.script) := by
  rw [Fragment.section?, solid, if_neg Bool.false_ne_true]
  rfl

theorem Closed.section_eq {f : Fragment} (closed : Closed f.script) : f.section? = some f.script := by
  rw [Fragment.section?_eq closed.not_isEmpty, closed.withoutFeeds_eq]

namespace Plan

variable {p : Plan} {kind : String → Kind} {s : Settings} {files : FileTree} {ls : Entries String Listing}

theorem artifact_ok {es : List Emission} {a : Artifact} (made : p.artifact s es = .ok a) : a = p.assembled s es := by
  rw [artifact] at made
  split at made
  · cases made
  · exact (Except.ok.inj made).symm

theorem Listed.script_eq (listed : p.Listed kind s files ls) :
    (p.assembled s (emissions ls)).script = Script.text (p.scriptLines s ls) := by
  have nodes : (emissions ls).filterMap (·.fragment.section?) = ls.map fun e => ScriptLine.joined e.2.lines := by
    rw [emissions, List.filterMap_map, ← List.filterMap_eq_map']
    apply List.filterMap_congr
    intro e member
    obtain ⟨n, mark, -, -, -, realized⟩ := listed.entries e member
    exact Closed.section_eq realized.closed
  have sections : p.sections s (emissions ls) = (p.scriptLines s ls).map ScriptLine.joined := by
    simp only [Plan.sections, nodes, scriptLines]
    cases (Emission.statements (emissions ls)).isEmpty <;> simp
  rw [assembled, sections]
  rfl

end Plan

namespace Graph

theorem Known.normalize {g : Graph} {kind : String → Kind} (known : g.Known kind) : g.analyze.graph.Known kind := by
  intro n member
  have kept : n ∈ g.normalize.graph.nodes := member
  rw [normalize_nodes] at kept
  exact known n (List.mem_filter.mp kept).1

theorem compile_ok {r : Registry} {g : Graph} {kind : String → Kind} {s : Settings} {files : FileTree} {a : Artifact}
    (wf : g.WellFormed r) (known : g.Known kind) (compiled : g.compile s files = .ok a) :
    ∃ p ls, Plan.ofAnalysis g.analyze = .ok p ∧ p.analysis = g.analyze ∧ p.Complete ∧
      p.listings kind s files = .ok ls ∧ p.Listed kind s files ls ∧ a = p.assembled s (Plan.emissions ls) := by
  have normal : g.analyze.graph.WellFormed r := normalize_well_formed wf
  unfold compile compilation at compiled
  cases planned : Plan.ofAnalysis g.analyze with
  | error e =>
    simp only [planned] at compiled
    cases compiled
  | ok p =>
    obtain ⟨analysis, complete⟩ := Plan.complete_of_ok normal planned
    simp only [planned] at compiled
    cases emitted : p.emitAll s files p.marked with
    | mk es failed =>
      cases failed with
      | some e =>
        simp only [emitted] at compiled
        cases compiled
      | none =>
        simp only [emitted] at compiled
        have planKnown : p.analysis.graph.Known kind := analysis ▸ known.normalize
        obtain ⟨ls, listed, rfl⟩ := Plan.emitAll_ok planKnown emitted
        have sound : p.analysis.graph.Sound r := analysis ▸ normal.toSound
        refine ⟨p, ls, rfl, analysis, complete, listed, Plan.listings_ok complete sound planKnown listed, ?_⟩
        exact Plan.artifact_ok compiled

theorem analyze_eq {g : Graph} (all : g.unreachable = []) (straight : g.backConnections = []) :
    g.analyze = ⟨⟨g, [], []⟩, g.coloring⟩ := by
  rw [analyze, normalize_eq all straight]

theorem compile_eq {g : Graph} {kind : String → Kind} {s : Settings} {files : FileTree} {p : Plan}
    {ls : Entries String Listing} (planned : Plan.ofAnalysis g.analyze = .ok p)
    (known : p.analysis.graph.Known kind) (listed : p.listings kind s files = .ok ls)
    (fine : ∀ e ∈ ls, e.2.fragment.problem? s = none)
    (short : (Scalar.int s.basePriority).isLongNumber = false) :
    g.compile s files = .ok (p.assembled s (Plan.emissions ls)) := by
  have emitted := Plan.emitAll_eq known listed fine
  unfold compile compilation
  simp only [planned, emitted]
  rw [Plan.artifact, short, if_neg Bool.false_ne_true]

end Graph
end FilterGraph
