import FilterGraph.Proofs.Export.Addresses
import FilterGraph.Proofs.Export.Header

namespace FilterGraph

inductive Test where
  | expression (text : String)
  | lookup (selector : String) (list : AddressList)

namespace Test

def list? : Test → Option AddressList
  | .expression _ => none
  | .lookup _ list => some list

def lines (chain file : String) (onMatch : Verdict) : Test → List ScriptLine
  | .expression text => [.rule ⟨chain, .expression text, onMatch⟩]
  | .lookup selector list => AddressList.familyLines chain file selector true list.v4 onMatch ++
      AddressList.familyLines chain file selector false list.v6 onMatch

def files : Test → Entries String String
  | .expression _ => []
  | .lookup _ list => [("addresses.txt", list.content)]

def listing (t : Test) (header chain file : String) (onMatch otherwise : Verdict) : Listing :=
  { lines := .text header :: t.lines chain file onMatch ++ [.rule ⟨chain, .always, otherwise⟩], files := t.files }

end Test

namespace Builtin

def isMatchFilter : Builtin → Bool
  | .filter _ | .addressList => true
  | _ => false

def pathParam : Param := { name := "path", displayName := "Matching list file" }

def fieldParam : Param := { name := "field", displayName := "Address field", default? := some "source", required := false }

/-- The test of a match filter that tells the text `raw` of its parameter. -/
inductive Tests (files : FileTree) (node : NodeView) (raw : String) : Builtin → Test → Prop
  | filter {criterion : Criterion} {text : String} (said : criterion.expression (Text.trim raw) = .ok text) :
      Tests files node raw (.filter criterion) (.expression text)
  | list {field selector : String} {text : List Char} {list : AddressList} (given : fieldParam.given node.params = .ok field)
      (selected : fieldSelector? field = some selector) (held : files.readText (Path.ofText (Text.trim raw)) = .ok text)
      (read : AddressList.read (Text.trim raw) 0 (Text.lines (String.ofList text)) = .ok list) :
      Tests files node raw .addressList (.lookup selector list)

variable {node node' : NodeView}

theorem rawText_of_given {p : Param} (unset : p.default? = none) {text : String} (given : p.given node.params = .ok text)
    (filled : text ≠ "") : ∃ raw, rawText node p.name = .ok raw ∧ text = Text.trim raw := by
  rcases Param.given_ok_iff.mp given with ⟨value, whole, found, -, written, rfl⟩ | ⟨-, -, -, rfl⟩ | ⟨-, rfl⟩
  · exact ⟨whole, by rw [rawText, found, Option.map_some, Option.getD_some, written], rfl⟩
  · exact absurd rfl filled
  · rw [unset] at filled
    exact absurd rfl filled

theorem typeId_inj {a b : Builtin} (same : a.typeId = b.typeId) : a = b := by
  have found := Registry.builtin_get? a
  rw [same, Registry.builtin_get? b] at found
  exact (nodeType_inj (Option.some.inj found)).symm

theorem fieldSelector?_inj {field field' selector : String} (left : fieldSelector? field = some selector)
    (right : fieldSelector? field' = some selector) : field = field' := by
  unfold fieldSelector? at left right
  grind

/-- The type and the text that a filter tells settle the ranges of a list and what else is tested, but not the address that
    is looked up. -/
theorem Tests.alike {files : FileTree} {raw : String} {b : Builtin} {t t' : Test} (tests : Tests files node raw b t)
    (tests' : Tests files node' raw b t') : t.list? = t'.list? ∧
      (t = t' ↔ (b = .addressList → fieldParam.given node.params = fieldParam.given node'.params)) := by
  cases tests with
  | filter said =>
    cases tests' with
    | filter said' =>
      cases said.symm.trans said'
      exact ⟨rfl, iff_of_true rfl nofun⟩
  | list given selected held read =>
    cases tests' with
    | list given' selected' held' read' =>
      cases held.symm.trans held'
      cases read.symm.trans read'
      refine ⟨rfl, ?_⟩
      simp only [given, given', Except.ok.injEq, forall_const, Test.lookup.injEq, and_true]
      constructor
      · rintro rfl
        exact fieldSelector?_inj selected selected'
      · rintro rfl
        exact Option.some.inj (selected.symm.trans selected')

theorem match_listing {b : Builtin} (filters : b.isMatchFilter = true) {outgoing : List Connection} {site : Site} {l : Listing}
    (listed : b.listing node outgoing site = .ok l) : ∃ raw t header chain onMatch otherwise,
      b.predicate node "match" = .ok ⟨b.typeId, [("allow", raw)]⟩ ∧ Tests site.files node raw b t ∧
      site.chain node.id = .ok chain ∧
      l = t.listing header chain (site.dataPath node.id "addresses.txt") onMatch otherwise := by
  cases b with
  | filter criterion =>
    obtain ⟨header, chain, text, onMatch, otherwise, -, own, said, -, -, rfl⟩ := filterListing_iff.mp listed
    obtain ⟨value, given, filled, said⟩ := filterExpression_ok.mp said
    have unset : criterion.param.default? = none := by rcases criterion with _ | ⟨_ | _⟩ | ⟨_ | _⟩ | _ <;> rfl
    obtain ⟨raw, told, rfl⟩ := rawText_of_given unset given filled
    exact ⟨raw, .expression text, header, chain, onMatch, otherwise, ok_bind told, .filter said, own, rfl⟩
  | addressList =>
    obtain ⟨header, chain, values, selector, onMatch, otherwise, list, -, own, resolved, selected, loaded, -, -, rfl⟩ :=
      addressListListing_parts listed
    have known := Param.resolve_ok addressList.params_distinct (mapError_ok.mp resolved)
    obtain ⟨path, given, held, required⟩ := known pathParam List.mem_cons_self
    obtain ⟨field, chosen, named, -⟩ := known fieldParam (List.mem_cons_of_mem _ List.mem_cons_self)
    obtain ⟨raw, told, rfl⟩ := rawText_of_given rfl given (required rfl)
    have path : values.get? "path" = some (Text.trim raw) := held
    have field : values.get? "field" = some field := named
    rw [path] at loaded
    rw [field] at selected
    obtain ⟨text, inside, read⟩ := AddressList.load_ok loaded
    exact ⟨raw, .lookup selector list, header, chain, onMatch, otherwise, ok_bind told,
      .list chosen selected inside read, own, rfl⟩
  | _ => cases filters

end Builtin

section Sections

def Settings.dataFile (s : Settings) (id name : String) : String := s!"{s.dataFolder}/{id}/{name}"

theorem Settings.dataFile_inj (s : Settings) {id id' name name' : String} (left : '/' ∉ id.toList) (right : '/' ∉ id'.toList)
    (same : s.dataFile id name = s.dataFile id' name') : id = id' ∧ name = name' := by
  have texts : s.dataFolder ++ "/" ++ id ++ "/" ++ name = s.dataFolder ++ "/" ++ id' ++ "/" ++ name' := same
  rw [← String.toList_inj] at texts
  simp only [String.toList_append, List.append_assoc, List.append_cancel_left_eq] at texts
  have slash : "/".toList = ['/'] := rfl
  rw [slash, List.singleton_append, List.singleton_append] at texts
  have cut := congrArg (Text.pieces '/') texts
  rw [Text.pieces_append, Text.pieces_append, Text.pieces_of_not_mem left, Text.pieces_of_not_mem right] at cut
  have node : id.toList = id'.toList := (List.cons.inj cut).1
  rw [node, List.append_cancel_left_eq, List.cons.injEq] at texts
  exact ⟨String.toList_inj.mp node, String.toList_inj.mp texts.2⟩

theorem Emission.mem_files (s : Settings) {es : List Emission} (plain : ∀ e ∈ es, '/' ∉ e.node.toList) {e : Emission}
    (member : e ∈ es) (alone : ∀ d ∈ es, d.node = e.node → d = e) (distinct : (e.fragment.files.map (·.1)).Nodup)
    {f : String × String} (listed : f ∈ e.fragment.files) :
    (s.dataFile e.node f.1, f.2) ∈ Emission.files s es := by
  refine List.mem_mergeSort.mpr (Entries.mem_foldl_set_of_alone ?_ ?_)
  · exact List.mem_flatMap.mpr ⟨e, member, List.mem_map.mpr ⟨f, listed, rfl⟩⟩
  · rintro ⟨path, content⟩ placed same
    obtain ⟨d, emitted, placed⟩ := List.mem_flatMap.mp placed
    obtain ⟨file, inside, written⟩ := List.mem_map.mp placed
    cases written
    obtain ⟨node, name⟩ := s.dataFile_inj (plain d emitted) (plain e member) same
    obtain rfl := alone d emitted node
    obtain rfl := List.inj_on_of_nodup_map distinct inside listed name
    rfl

end Sections

namespace Graph

variable {r : Registry} {g : Graph} {s : Settings} {files : FileTree} {a : Artifact}

theorem exported_fragment (authored : Authored r g) (compiled : g.compile s files = .ok a) {n : Node} (present : n ∈ g.nodes)
    (exported : n.id ∈ a.order) (inner : isPermanentId n.id = false) :
    ∃ (p : Plan) (mark : Nat) (f : Fragment), p.Complete ∧ p.emitted s files mark n = .ok f ∧
      (∀ text, f.section? = some text → ∃ before after, a.script = before ++ "\n" ++ text ++ "\n" ++ after) ∧
      ((f.files.map (·.1)).Nodup → ∀ file ∈ f.files, (s.dataFile n.id file.1, file.2) ∈ a.files) := by
  obtain ⟨-, wf⟩ := authored.well_formed
  obtain ⟨p, mark, e, analysis, complete, emitted, rfl, member, marked, done, own, fragment⟩ :=
    exported_emission wf compiled present exported inner
  have made := forall₂_partners (Plan.emitAll_made emitted)
  refine ⟨p, mark, e.fragment, complete, fragment, fun text shown => ?_, fun distinct file listed => ?_⟩
  · obtain ⟨before, after, left, right, split⟩ := Plan.sections_split member shown
    obtain ⟨front, back, written⟩ := intercalate_inner left right text
    refine ⟨front, back ++ "\n", ?_⟩
    change "\n\n".intercalate (p.sections s _) ++ "\n" = _
    rw [split, written, String.append_assoc]
  · have alone : ∀ d ∈ (p.emitAll s files p.marked).1, d.node = e.node → d = e := by
      intro d emission named
      obtain ⟨⟨id, mark'⟩, marked', done'⟩ := made.2 d emission
      obtain ⟨-, -, owner, -⟩ := Plan.emit_made done'
      obtain rfl : id = n.id := owner.symm.trans (named.trans own)
      obtain rfl : mark' = mark := (complete.idxOf_marked marked').symm.trans (complete.idxOf_marked marked)
      exact Except.ok.inj (done'.symm.trans done)
    have plain : ∀ d ∈ (p.emitAll s files p.marked).1, '/' ∉ d.node.toList := by
      intro d emission
      obtain ⟨_, -, done'⟩ := made.2 d emission
      obtain ⟨inside, -⟩ := Plan.emit_kept done'
      obtain ⟨k, here, named⟩ := mem_nodeIds.mp inside
      exact (isName_of_givenId (named ▸ authored.given k (mem_analyze (analysis ▸ here)))).2.1
    have placed := Emission.mem_files s plain member alone distinct listed
    rwa [own] at placed

end Graph

structure Artifact.Tests (a : Artifact) (s : Settings) (id : String) (t : Test) : Prop where
  script : ∃ header onMatch otherwise before after, a.script = before ++ "\n" ++ ScriptLine.joined
    (t.listing header (chainName id) (s.dataFile id "addresses.txt") onMatch otherwise).lines ++ "\n" ++ after
  files : ∀ f ∈ t.files, (s.dataFile id f.1, f.2) ∈ a.files

theorem Test.listing_closed (t : Test) (header chain file : String) (onMatch otherwise : Verdict) :
    Closed (t.listing header chain file onMatch otherwise).fragment.script :=
  ScriptLine.joined_closed List.getLast?_concat (ScriptLine.rule_closed _)

theorem Test.files_nodup (t : Test) : (t.files.map (·.1)).Nodup := by
  cases t with
  | expression text => exact List.nodup_nil
  | lookup selector list => exact List.nodup_singleton _

namespace Graph

variable {r r' : Registry} {g g' : Graph} {s s' : Settings} {files : FileTree} {a a' : Artifact}

theorem WellFormed.not_permanent (wf : g.WellFormed r) {n : Node} (present : n ∈ g.nodes) {b : Builtin}
    (type : n.type = b.nodeType) (filters : b.isMatchFilter = true) : isPermanentId n.id = false := by
  obtain ⟨source, localhost⟩ := wf.paired n present
  have typeId : n.type.typeId = b.typeId := congrArg NodeType.typeId type
  rw [← Bool.not_eq_true]
  intro permanent
  rcases isPermanentId_iff.mp permanent with here | here
  · cases Builtin.typeId_inj (b := .source) (typeId.symm.trans (source.mpr here))
    cases filters
  · cases Builtin.typeId_inj (b := .localhost) (typeId.symm.trans (localhost.mpr here))
    cases filters

theorem match_tested (authored : Authored r g) (compiled : g.compile s files = .ok a) {n : Node} (present : n ∈ g.nodes)
    (exported : n.id ∈ a.order) {b : Builtin} (type : n.type = b.nodeType) (filters : b.isMatchFilter = true) :
    ∃ raw t, n.type.predicate n.view "match" = .ok (some ⟨b.typeId, [("allow", raw)]⟩) ∧
      Builtin.Tests files n.view raw b t ∧ a.Tests s n.id t := by
  have inner := authored.well_formed.2.not_permanent present type filters
  obtain ⟨p, mark, f, complete, made, shown, placed⟩ := exported_fragment authored compiled present exported inner
  rw [Plan.emitted, type] at made
  obtain ⟨l, listed, rfl⟩ := map_ok made
  obtain ⟨raw, t, header, chain, onMatch, otherwise, told, tests, chained, rfl⟩ := Builtin.match_listing filters listed
  obtain rfl := (Plan.site_named complete mark n.id).chain_eq chained
  refine ⟨raw, t, ?_, tests, ?_, placed t.files_nodup⟩
  · rw [type]
    exact congrArg (Except.map some) told
  · obtain ⟨before, after, written⟩ := shown _ (t.listing_closed ..).section_eq
    exact ⟨header, onMatch, otherwise, before, after, written⟩

/-- Match filters that are told alike on a path are of one type and test the same, but for two address lists: these look up
    the same ranges, and the same address exactly where they are given the same field. -/
theorem equal_predicates (authored : Authored r g) (authored' : Authored r' g') (compiled : g.compile s files = .ok a)
    (compiled' : g'.compile s' files = .ok a') {n n' : Node} (present : n ∈ g.nodes) (present' : n' ∈ g'.nodes)
    (exported : n.id ∈ a.order) (exported' : n'.id ∈ a'.order) {b b' : Builtin} (type : n.type = b.nodeType)
    (type' : n'.type = b'.nodeType) (filters : b.isMatchFilter = true) (filters' : b'.isMatchFilter = true) :
    ∃ d d' t t', n.type.predicate n.view "match" = .ok (some d) ∧ n'.type.predicate n'.view "match" = .ok (some d') ∧
      a.Tests s n.id t ∧ a'.Tests s' n'.id t' ∧
      (d = d' → b = b' ∧ t.list? = t'.list? ∧
        (t = t' ↔ (b = .addressList → Builtin.fieldParam.given n.params = Builtin.fieldParam.given n'.params))) := by
  obtain ⟨raw, t, told, tests, tested⟩ := match_tested authored compiled present exported type filters
  obtain ⟨raw', t', told', tests', tested'⟩ := match_tested authored' compiled' present' exported' type' filters'
  refine ⟨_, _, t, t', told, told', tested, tested', fun same => ?_⟩
  obtain ⟨typeIds, params⟩ := Predicate.mk.inj same
  obtain rfl := Builtin.typeId_inj typeIds
  obtain rfl : raw = raw' := by simpa using params
  exact ⟨rfl, tests.alike tests'⟩

def among : Graph :=
  Graph.new.edits .builtin
    [.add "core:file_ip_list" (some "from") [("path", .text "/list")] (.list [.int 0, .int 0]),
      .add "core:file_ip_list" (some "to") [("path", .text "/list"), ("field", .text "destination")] (.list [.int 0, .int 0]),
      .connect ⟨⟨sourceId, "out"⟩, ⟨"from", "in"⟩⟩, .connect ⟨⟨"from", "match"⟩, ⟨"to", "in"⟩⟩]

def amongKind : String → Kind
  | "source" => .builtin .source
  | "localhost" => .builtin .localhost
  | _ => .builtin .addressList

def listFiles : FileTree := ⟨Path.ofText "/", none, [(["list"], .file "192.0.2.7".toUTF8.toList false)]⟩

def fromNode : Node := { id := "from", type := Builtin.addressList.nodeType, params := [("path", .text "/list")] }

def toNode : Node :=
  { id := "to", type := Builtin.addressList.nodeType, params := [("path", .text "/list"), ("field", .text "destination")] }

theorem among_nodes : among.nodes = [{ id := sourceId, type := Builtin.source.nodeType },
    { id := localhostId, type := Builtin.localhost.nodeType }, fromNode, toNode] := by rfl

theorem among_compiled : ∃ a, among.compile {} listFiles = .ok a ∧ fromNode.id ∈ a.order ∧ toNode.id ∈ a.order := by
  let p : Plan := ⟨⟨⟨among, [], []⟩, among.coloring⟩, [sourceId, "from", "to", localhostId],
    [(sourceId, "source"), ("from", "n_from"), ("to", "n_to"), (localhostId, "localhost")]⟩
  have analyzed : among.analyze = ⟨⟨among, [], []⟩, among.coloring⟩ :=
    analyze_eq (by decide +kernel) ((CycleSearch.run_eq 10 (by decide +kernel)).trans (by decide +kernel))
  have planned : Plan.ofAnalysis among.analyze = .ok p := by
    rw [analyzed]
    unfold p
    generalize among.coloring = colors
    rfl
  have known : among.Known amongKind := by
    intro n member
    rw [among_nodes] at member
    simp only [List.mem_cons, List.not_mem_nil, or_false] at member
    rcases member with rfl | rfl | rfl | rfl <;> rfl
  have admitted : (p.listings amongKind {} listFiles).toOption.map (·.all fun e => (e.2.fragment.problem? {}).isNone) =
      some true := by decide +kernel
  cases made : p.listings amongKind {} listFiles with
  | error e =>
    rw [made] at admitted
    cases admitted
  | ok ls =>
    rw [made] at admitted
    have fine : ∀ e ∈ ls, e.2.fragment.problem? {} = none := by
      simpa [Except.toOption] using admitted
    exact ⟨_, compile_eq planned known made fine (by decide +kernel), by simp [Plan.assembled, p, fromNode],
      by simp [Plan.assembled, p, toNode]⟩

theorem both_ends_told_alike :
    let d : Predicate := ⟨"core:file_ip_list", [("allow", "/list")]⟩
    ∃ a t t', among.compile {} listFiles = .ok a ∧ fromNode.type.predicate fromNode.view "match" = .ok (some d) ∧
      toNode.type.predicate toNode.view "match" = .ok (some d) ∧ a.Tests {} "from" t ∧ a.Tests {} "to" t' ∧
      t.list? = t'.list? ∧ t ≠ t' := by
  intro d
  obtain ⟨a, compiled, first, second⟩ := among_compiled
  have authored : Authored .builtin among := .edits (.new .builtin) _
  have present : fromNode ∈ among.nodes := by simp [among_nodes]
  have present' : toNode ∈ among.nodes := by simp [among_nodes]
  have type : fromNode.type = Builtin.addressList.nodeType := rfl
  have type' : toNode.type = Builtin.addressList.nodeType := rfl
  obtain ⟨e, e', t, t', told, told', tested, tested', alike⟩ := equal_predicates authored authored compiled compiled
    present present' first second type type' rfl rfl
  have shown : fromNode.type.predicate fromNode.view "match" = .ok (some d) := by rfl
  have shown' : toNode.type.predicate toNode.view "match" = .ok (some d) := by rfl
  obtain rfl : d = e := Option.some.inj (Except.ok.inj (shown.symm.trans told))
  obtain rfl : d = e' := Option.some.inj (Except.ok.inj (shown'.symm.trans told'))
  obtain ⟨-, ranges, same⟩ := alike rfl
  refine ⟨a, t, t', compiled, told, told', tested, tested', ranges, fun equal => ?_⟩
  have fields := same.mp equal rfl
  exact absurd fields (by decide)

end Graph

end FilterGraph
