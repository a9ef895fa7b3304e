import FilterGraph.Proofs.Entries
import FilterGraph.Proofs.Export.Routing
import FilterGraph.Proofs.Text.Numeral

namespace FilterGraph

def Rule.mark? (statement : String) : Option Int :=
  ("meta mark 0x".toList.isPrefixOf? statement.toList).map fun rest =>
    (Text.asciiNumber 16 (rest.takeWhile Text.isHexDigit) : Int)

theorem markText_natCast (mark : Nat) : (markText mark).toList = '0' :: 'x' :: Nat.toDigits 16 mark := by
  have plain : ¬ (mark : Int) < 0 := by omega
  have digits : (String.ofList (Nat.toDigits 16 mark)).toList = Nat.toDigits 16 mark := String.toList_ofList
  rw [markText, if_neg plain, Int.natAbs_natCast, String.toList_append, digits]
  rfl

theorem Rule.mark?_natStatement (side : Side) (mark : Nat) (target : Network) :
    mark? (Builtin.natStatement side mark target) = some (mark : Int) := by
  obtain ⟨action, statement⟩ : ∃ action, Builtin.natStatement side mark target =
      "meta mark " ++ (markText mark ++ (" " ++ action)) := by
    refine ⟨side.natKeyword ++ " " ++ familyKeyword target.isV4 ++ " to " ++
      String.ofList (target.toChars.takeWhile (· != '/')), ?_⟩
    simp only [← String.append_assoc]
    rfl
  have text : (Builtin.natStatement side mark target).toList =
      "meta mark 0x".toList ++ (Nat.toDigits 16 mark ++ ' ' :: action.toList) := by
    rw [statement, String.toList_append, String.toList_append, String.toList_append, markText_natCast]
    rfl
  have digits : (Nat.toDigits 16 mark ++ ' ' :: action.toList).takeWhile Text.isHexDigit = Nat.toDigits 16 mark := by
    rw [List.takeWhile_append_of_pos (Text.isHexDigit_toDigits mark), List.takeWhile_cons_of_neg (by decide),
      List.append_nil]
  have rest := List.isPrefixOf?_eq_some_iff_append_eq.mpr text.symm
  rw [mark?, rest, Option.map_some, digits,
    Text.asciiNumber_toDigits 16 mark (by decide) (by decide)]

namespace Emission

theorem statements_getD (es : List Emission) (hook : String) :
    ((statements es).get? hook).getD [] =
      ((es.flatMap (·.fragment.nat)).filter (·.1 == hook)).flatMap (·.2) := by
  exact Entries.getD_gather [] _ hook

end Emission

theorem Side.ofHook?_hook (side : Side) : ofHook? side.hook = some side := by cases side <;> rfl

theorem Script.mem_natLines {nat : Entries String (List String)} {side : Side} {all : List String} {statement : String}
    (gathered : (side.hook, all) ∈ nat) (member : statement ∈ all) :
    ScriptLine.statement ("nat_" ++ side.hook) statement ∈ natLines nat := by
  have sorted := (List.mergeSort_perm nat fun a b => a.1 ≤ b.1).mem_iff.mpr gathered
  refine List.mem_cons_of_mem _ (List.mem_flatMap.mpr ⟨_, sorted, ?_⟩)
  simp only [natChain, side.ofHook?_hook]
  exact List.mem_cons_of_mem _ (List.mem_map_of_mem member)

namespace Plan

variable {p : Plan} {kind : String → Kind} {s : Settings} {files : FileTree} {ls : Entries String Listing}

theorem Listed.natStatement_mem (complete : p.Complete) (listed : p.Listed kind s files ls) {id : String} {side : Side}
    (member : id ∈ p.order) (inner : isPermanentId id = false) (nat : kind id = .builtin (.nat side)) :
    ∃ target, ScriptLine.statement ("nat_" ++ side.hook) (Builtin.natStatement side (p.order.idxOf id) target) ∈
      (p.scriptLines s ls).flatten := by
  obtain ⟨e, present, rfl⟩ := listed.listed_of_mem member inner
  obtain ⟨n, mark, -, marked, made, -⟩ := listed.entries e present
  rw [nat] at made
  obtain ⟨text, target, next, -, listing⟩ := Kind.natListing_ok (site_named complete mark e.1) made
  refine ⟨target, ?_⟩
  rw [complete.idxOf_marked marked]
  have own : (side.hook, [Builtin.natStatement side mark target]) ∈
      (emissions ls).flatMap (·.fragment.nat) := by
    refine List.mem_flatMap.mpr ⟨_, List.mem_map_of_mem present, ?_⟩
    have contributed := congrArg Listing.nat listing
    change _ ∈ e.2.nat
    rw [contributed]
    exact List.mem_singleton_self _
  have gathered : Builtin.natStatement side mark target ∈
      ((Emission.statements (emissions ls)).get? side.hook).getD [] := by
    rw [Emission.statements_getD]
    exact List.mem_flatMap.mpr ⟨_, List.mem_filter.mpr ⟨own, beq_self_eq_true side.hook⟩, List.mem_singleton_self _⟩
  cases found : (Emission.statements (emissions ls)).get? side.hook with
  | none =>
    rw [found] at gathered
    exact absurd gathered List.not_mem_nil
  | some all =>
    rw [found] at gathered
    have line := Script.mem_natLines (Entries.mem_of_get? found) gathered
    have some : (Emission.statements (emissions ls)).isEmpty = false :=
      List.isEmpty_eq_false_iff.mpr (List.ne_nil_of_mem (Entries.mem_of_get? found))
    refine List.mem_flatten.mpr ⟨_, ?_, line⟩
    rw [scriptLines, some]
    simp

end Plan

theorem Kind.isNat_iff {k : Kind} : k.isNat = true ↔ ∃ side, k = .builtin (.nat side) := by
  constructor
  · intro nat
    match k, nat with
    | .builtin (.nat side), _ => exact ⟨side, rfl⟩
  · rintro ⟨side, rfl⟩
    rfl

theorem Graph.Known.nat_inner {r : Registry} {g : Graph} {kind : String → Kind} (built : r.Built)
    (wf : g.WellFormed r) (known : g.Known kind) {id : String} (nat : (kind id).isNat = true) :
    isPermanentId id = false := by
  rw [← Bool.not_eq_true]
  intro permanent
  rcases isPermanentId_iff.mp permanent with source | localhost
  · rw [source, known.source_eq built wf] at nat
    cases nat
  · rw [localhost, known.localhost_eq built wf] at nat
    cases nat

def lastNat? (kind : String → Kind) (path : List String) : Option String :=
  (path.filter fun id => (kind id).isNat).getLast?

section LastNat

variable {kind : String → Kind} {path order : List String}

theorem mem_of_lastNat? {id : String} (last : lastNat? kind path = some id) : id ∈ path ∧ (kind id).isNat = true :=
  List.mem_filter.mp (List.mem_of_getLast? last)

theorem lastNat?_of_mem {id : String} (member : id ∈ path) (nat : (kind id).isNat = true) :
    ∃ last, lastNat? kind path = some last := by
  have some : (path.filter fun id => (kind id).isNat) ≠ [] := List.ne_nil_of_mem (List.mem_filter.mpr ⟨member, nat⟩)
  exact ⟨_, List.getLast?_eq_some_getLast some⟩

theorem lastNat?_only (inside : ∀ id ∈ path, id ∈ order) :
    (∀ id ∈ order, (kind id).isNat = true → (lastNat? kind path = some id ↔ id ∈ path)) ↔
      ∀ a ∈ path, ∀ b ∈ path, (kind a).isNat = true → (kind b).isNat = true → a = b := by
  constructor
  · intro only a left b right first second
    have last := ((only a (inside a left) first).mpr left).symm.trans ((only b (inside b right) second).mpr right)
    exact Option.some.inj last
  · intro single id _ nat
    refine ⟨fun last => (mem_of_lastNat? last).1, fun member => ?_⟩
    obtain ⟨last, found⟩ := lastNat?_of_mem member nat
    obtain ⟨present, also⟩ := mem_of_lastNat? found
    rw [found, single last present id member also nat]

end LastNat

namespace Plan

variable {p : Plan} {kind : String → Kind} {path : List String}

theorem foldl_markAfter (p : Plan) (kind : String → Kind) (path : List String) (mark : Int) :
    path.foldl (p.markAfter kind) mark =
      ((lastNat? kind path).map fun id => (p.order.idxOf id : Int)).getD mark := by
  induction path generalizing mark with
  | nil => rfl
  | cons id rest ih =>
    rw [List.foldl_cons, ih, markAfter, lastNat?, lastNat?, List.filter_cons]
    split
    · rw [List.getLast?_cons]
      cases (rest.filter fun id => (kind id).isNat).getLast? <;> rfl
    · rfl

/-- A packet that was not marked before has the mark of a node behind a path whose last NAT node it is. -/
theorem Complete.marked_iff (complete : p.Complete) (source : (kind sourceId).isNat = false)
    (inside : ∀ id ∈ path, id ∈ p.order) {id : String} (member : id ∈ p.order) (nat : (kind id).isNat = true) :
    (p.order.idxOf id : Int) = path.foldl (p.markAfter kind) 0 ↔ lastNat? kind path = some id := by
  rw [foldl_markAfter]
  cases found : lastNat? kind path with
  | some last =>
    have present := inside last (mem_of_lastNat? found).1
    rw [Option.map_some, Option.getD_some, Int.natCast_inj, List.idxOf_inj member, Option.some_inj]
    exact eq_comm
  | none =>
    -- the place of the source is zero, and nobody else has the mark of an unmarked packet
    have positive : p.order.idxOf id ≠ 0 := by
      intro zero
      have first := (List.idxOf_eq_zero_iff_head_eq (List.ne_nil_of_mem member)).mp zero
      have head := complete.first
      rw [List.head?_eq_some_head (List.ne_nil_of_mem member), first] at head
      rw [Option.some.inj head, source] at nat
      cases nat
    rw [Option.map_none, Option.getD_none, Int.natCast_eq_zero]
    exact ⟨fun zero => absurd zero positive, fun other => nomatch other⟩

end Plan

/-- The statements of the NAT nodes of an export. Each stands in the chain at its hook and asks for the mark of its
    node, which is the place of the node in the order. -/
structure NatStatements (kind : String → Kind) (order : List String) (sections : List (List ScriptLine))
    (statement : String → String) : Prop where
  stated : ∀ id ∈ order, ∀ side, kind id = .builtin (.nat side) →
    .statement ("nat_" ++ side.hook) (statement id) ∈ sections.flatten
  marked : ∀ id ∈ order, ∀ side, kind id = .builtin (.nat side) →
    ∃ target, statement id = Builtin.natStatement side (order.idxOf id) target

theorem NatStatements.mark_eq {kind : String → Kind} {order : List String} {sections : List (List ScriptLine)}
    {statement : String → String} (statements : NatStatements kind order sections statement) {id : String}
    (member : id ∈ order) (nat : (kind id).isNat = true) :
    Rule.mark? (statement id) = some (order.idxOf id : Int) := by
  obtain ⟨side, same⟩ := Kind.isNat_iff.mp nat
  obtain ⟨target, made⟩ := statements.marked id member side same
  rw [made, Rule.mark?_natStatement]

theorem Plan.Listed.natStatements {r : Registry} {p : Plan} {kind : String → Kind} {s : Settings} {files : FileTree}
    {ls : Entries String Listing} (built : r.Built) (wf : p.analysis.graph.WellFormed r)
    (known : p.analysis.graph.Known kind) (complete : p.Complete) (listed : p.Listed kind s files ls) :
    ∃ statement, NatStatements kind p.order (p.scriptLines s ls) statement := by
  have one : ∀ id, ∃ statement, id ∈ p.order → ∀ side, kind id = .builtin (.nat side) →
      ScriptLine.statement ("nat_" ++ side.hook) statement ∈ (p.scriptLines s ls).flatten ∧
        ∃ target, statement = Builtin.natStatement side (p.order.idxOf id) target := by
    intro id
    by_cases nat : id ∈ p.order ∧ ∃ side, kind id = .builtin (.nat side)
    · obtain ⟨member, side, same⟩ := nat
      have inner := known.nat_inner built wf (Kind.isNat_iff.mpr ⟨side, same⟩)
      obtain ⟨target, line⟩ := listed.natStatement_mem complete member inner same
      refine ⟨Builtin.natStatement side (p.order.idxOf id) target, fun _ other also => ?_⟩
      cases same.symm.trans also
      exact ⟨line, target, rfl⟩
    · exact ⟨"", fun member side same => absurd ⟨member, side, same⟩ nat⟩
  choose statement facts using one
  exact ⟨statement, fun id member side same => (facts id member side same).1,
    fun id member side same => (facts id member side same).2⟩

/-- A packet leaves the base chain with the mark of the last NAT node on its way, so that one alone of the NAT
    statements applies to it. It is the right selection exactly where no two NAT nodes are on the way. -/
theorem Packet.last_nat_applies {r : Registry} {g : Graph} (built : r.Built) (reachable : g.Reachable r)
    {kind : String → Kind} (known : g.Known kind) {s : Settings} {files : FileTree} {a : Artifact}
    (compiled : g.compile s files = .ok a) :
    ∃ sections statement, g.scriptLines kind s files = .ok sections ∧ a.script = Script.text sections ∧
      NatStatements kind a.order sections statement ∧
      ∀ packet : Packet, ∃ path d mark, packet.Walks g.normalize.graph kind s.dataFolder sourceId path d ∧
        packet.Executes (Script.rules sections) (chainName sourceId) 0 (path.map chainName) d mark ∧
        (∀ chains e after, packet.Executes (Script.rules sections) (chainName sourceId) 0 chains e after →
          after = mark) ∧
        (∀ id ∈ a.order, (kind id).isNat = true →
          (Rule.mark? (statement id) = some mark ↔ lastNat? kind path = some id)) ∧
        ((∀ id ∈ a.order, (kind id).isNat = true → (Rule.mark? (statement id) = some mark ↔ id ∈ path)) ↔
          ∀ a ∈ path, ∀ b ∈ path, (kind a).isNat = true → (kind b).isNat = true → a = b) := by
  have wf := reachable.well_formed built
  obtain ⟨p, ls, analysis, complete, listed, rfl, lines, routes⟩ := g.compile_routes built wf known compiled
  have graph : p.analysis.graph = g.normalize.graph := congrArg Analysis.graph analysis
  have normal : p.analysis.graph.WellFormed r := graph ▸ Graph.normalize_well_formed wf
  have planKnown : p.analysis.graph.Known kind := analysis ▸ known.normalize
  obtain ⟨statement, statements⟩ := listed.natStatements built normal planKnown complete
  have source : (kind sourceId).isNat = false := by
    rw [known.source_eq built wf]
    rfl
  refine ⟨p.scriptLines s ls, statement, lines, listed.script_eq, statements, fun packet => ?_⟩
  obtain ⟨path, d, walk, run⟩ := routes packet 0
  have inside : ∀ id ∈ path, id ∈ p.order := by
    intro id member
    obtain ⟨n, found⟩ := walk.found id member
    rw [← graph] at found
    exact (complete.ids id).mpr (Graph.mem_nodeIds.mpr ⟨n, Graph.node?_mem found⟩)
  have applies : ∀ id ∈ p.order, (kind id).isNat = true →
      (Rule.mark? (statement id) = some (path.foldl (p.markAfter kind) 0) ↔ lastNat? kind path = some id) := by
    intro id member nat
    rw [statements.mark_eq member nat, Option.some_inj]
    exact complete.marked_iff source inside member nat
  refine ⟨path, d, _, walk, run, fun _ _ _ other => (other.unique run).2.2, applies, ?_⟩
  rw [← lastNat?_only inside]
  exact forall₃_congr fun id member nat => by rw [applies id member nat]

def relay : Graph :=
  let link (a b : String) : Edit := .connect ⟨⟨a, "out"⟩, ⟨b, "in"⟩⟩
  Graph.new.edits .builtin
    [.add "core:destination_nat" (some "d") [("address", .text "192.0.2.10")] (.list [.int 0, .int 0]),
      .add "core:source_nat" (some "s") [("address", .text "203.0.113.5")] (.list [.int 0, .int 0]),
      link sourceId "d", link "d" "s", link "s" localhostId]

def relayKind : String → Kind
  | "source" => .builtin .source
  | "d" => .builtin (.nat .destination)
  | "s" => .builtin (.nat .source)
  | _ => .builtin .localhost

theorem relay_known : relay.Known relayKind := by
  have nodes : relay.nodes =
      [{ id := sourceId, type := Builtin.source.nodeType }, { id := localhostId, type := Builtin.localhost.nodeType },
        { id := "d", type := (Builtin.nat .destination).nodeType, params := [("address", .text "192.0.2.10")] },
        { id := "s", type := (Builtin.nat .source).nodeType, params := [("address", .text "203.0.113.5")] }] := by rfl
  intro n member
  rw [nodes] at member
  simp only [List.mem_cons, List.not_mem_nil, or_false] at member
  rcases member with rfl | rfl | rfl | rfl <;> rfl

theorem relay_analyze : relay.analyze = ⟨⟨relay, [], []⟩, relay.coloring⟩ :=
  Graph.analyze_eq (by decide +kernel) ((CycleSearch.run_eq 10 (by decide +kernel)).trans (by decide +kernel))

theorem relay_compiled : ∃ a, relay.compile {} (.empty (Path.ofText "/")) = .ok a ∧
    a.order = [sourceId, "d", "s", localhostId] := by
  let p : Plan := ⟨⟨⟨relay, [], []⟩, relay.coloring⟩, [sourceId, "d", "s", localhostId],
    [(sourceId, "source"), ("d", "n_d"), ("s", "n_s"), (localhostId, "localhost")]⟩
  let ls : Entries String Listing :=
    [("d", { lines := [.text "# d: Destination Address Translation (core:destination_nat)",
        .rule ⟨"n_d", .always, .mark 1⟩, .rule ⟨"n_d", .always, .goto "n_s"⟩]
             nat := [("prerouting", [Builtin.natStatement .destination 1 ⟨.v4 0xC000020A, 32⟩])] }),
      ("s", { lines := [.text "# s: Source Address Translation (core:source_nat)",
        .rule ⟨"n_s", .always, .mark 2⟩, .rule ⟨"n_s", .always, .goto "localhost"⟩]
              nat := [("postrouting", [Builtin.natStatement .source 2 ⟨.v4 0xCB007105, 32⟩])] })]
  have planned : Plan.ofAnalysis relay.analyze = .ok p := by
    rw [relay_analyze]
    unfold p
    generalize relay.coloring = colors
    rfl
  have listed : p.listings relayKind {} (.empty (Path.ofText "/")) = .ok ls := by
    unfold p
    generalize relay.coloring = colors
    rfl
  have fine : ∀ e ∈ ls, e.2.fragment.problem? {} = none := by
    intro e member
    rcases List.mem_cons.mp member with rfl | member
    · exact Fragment.problem?_plain rfl (by decide)
    · rw [List.mem_singleton.mp member]
      exact Fragment.problem?_plain rfl (by decide)
  exact ⟨_, Graph.compile_eq planned relay_known listed fine (by decide +kernel), rfl⟩

theorem relay_keeps_last_mark :
    ∃ sections statement, relay.scriptLines relayKind {} (.empty (Path.ofText "/")) = .ok sections ∧
      NatStatements relayKind [sourceId, "d", "s", localhostId] sections statement ∧
      ∀ packet : Packet, ∃ mark,
        packet.Executes (Script.rules sections) "source" 0 ["source", "n_d", "n_s", "localhost"] .accept mark ∧
        Rule.mark? (statement "d") ≠ some mark ∧ Rule.mark? (statement "s") = some mark := by
  obtain ⟨a, compiled, order⟩ := relay_compiled
  have reachable : relay.Reachable .builtin := Graph.Reachable.edits .new _
  obtain ⟨sections, statement, lines, -, statements, applies⟩ :=
    Packet.last_nat_applies .builtin reachable relay_known compiled
  rw [order] at statements applies
  refine ⟨sections, statement, lines, statements, fun packet => ?_⟩
  obtain ⟨path, d, mark, walk, run, -, last, -⟩ := applies packet
  have graph : relay.normalize.graph = relay := congrArg Analysis.graph relay_analyze
  rw [graph] at walk
  obtain ⟨rfl, rfl⟩ := walk.unique (.moved rfl rfl rfl (.moved rfl rfl rfl (.moved rfl rfl rfl (.decided rfl rfl))))
  refine ⟨mark, run, fun selected => ?_, (last "s" (by decide) rfl).mpr rfl⟩
  exact absurd ((last "d" (by decide) rfl).mp selected) (by decide)

end FilterGraph
