import FilterGraph.Proofs.Export.Listing
import FilterGraph.Proofs.Text.Trim

namespace FilterGraph

theorem chainChar_not_blank {c : Char} (plain : isChainChar c = true) : Text.isBlank c = false := by
  have range : 47 < c.toNat ∧ c.toNat < 123 := by
    have ranges : (decide (c.val ≥ 'A'.val ∧ c.val ≤ 'Z'.val) || (c.val ≥ 'a'.val && c.val ≤ 'z'.val) ||
      (c.val ≥ '0'.val && c.val ≤ '9'.val) || c == '_') = true := plain
    simp only [Bool.or_eq_true, Bool.and_eq_true, decide_eq_true_eq, beq_iff_eq, ge_iff_le,
      UInt32.le_iff_toNat_le] at ranges
    change (((65 ≤ c.toNat ∧ c.toNat ≤ 90) ∨ (97 ≤ c.toNat ∧ c.toNat ≤ 122)) ∨
      (48 ≤ c.toNat ∧ c.toNat ≤ 57)) ∨ c = '_' at ranges
    rcases ranges with other | rfl
    · omega
    · decide
  exact Text.isBlank_eq_false (by omega) (by omega)

theorem chainName_chars (id : String) : ∀ c ∈ (chainName id).toList, isChainChar c = true := by
  unfold chainName
  split
  · rename_i permanent
    rcases isPermanentId_iff.mp permanent with source | localhost
    · rw [source]
      exact List.all_eq_true.mp (show sourceId.toList.all isChainChar = true by decide)
    · rw [localhost]
      exact List.all_eq_true.mp (show localhostId.toList.all isChainChar = true by decide)
  · intro c member
    rw [String.toList_append, List.mem_append] at member
    rcases member with start | rest
    · exact List.all_eq_true.mp (show "n_".toList.all isChainChar = true by decide) c start
    · rw [String.toList_ofList] at rest
      obtain ⟨d, -, rfl⟩ := List.mem_map.mp rest
      split
      · assumption
      · decide

theorem chainName_ne_nil (id : String) : (chainName id).toList ≠ [] := by
  unfold chainName
  split
  · rename_i permanent
    rcases isPermanentId_iff.mp permanent with source | localhost
    · rw [source]
      decide
    · rw [localhost]
      decide
  · rw [String.toList_append]
    exact List.append_ne_nil_of_left_ne_nil (by decide) _

def Verdict.OfPort (v : Verdict) : Prop := v = .leave ∨ ∃ id, v = .goto (chainName id)

theorem Site.Named.portVerdict_ofPort {site : Site} (named : site.Named) {outgoing : List Connection} {port : String}
    {v : Verdict} (made : site.portVerdict outgoing port = .ok v) : v.OfPort := by
  unfold Site.portVerdict Site.verdict at made
  cases leaving : Connection.leaving port outgoing with
  | none =>
    simp only [leaving] at made
    cases made
    exact Or.inl rfl
  | some c =>
    simp only [leaving] at made
    obtain ⟨chain, known, rfl⟩ := map_ok made
    exact Or.inr ⟨c.input.node, by rw [named.chain_eq known]⟩

theorem Verdict.OfPort.toText_head {v : Verdict} (ofPort : v.OfPort) {c : Char}
    (first : v.toText.toList.head? = some c) : Text.isBlank c = false := by
  rcases ofPort with rfl | ⟨id, rfl⟩
  · cases first
    decide
  · rw [Verdict.toText, String.toList_append] at first
    cases first
    decide

theorem Verdict.OfPort.toText_last {v : Verdict} (ofPort : v.OfPort) :
    ∃ c, v.toText.toList.getLast? = some c ∧ Text.isBlank c = false := by
  rcases ofPort with rfl | ⟨id, rfl⟩
  · exact ⟨'n', by decide, by decide⟩
  · have whole : (Verdict.goto (chainName id)).toText.toList = "goto ".toList ++ (chainName id).toList :=
      String.toList_append
    refine ⟨_, ?_, chainChar_not_blank (chainName_chars id _ (List.getLast_mem (chainName_ne_nil id)))⟩
    rw [whole, List.getLast?_append, List.getLast?_eq_some_getLast (chainName_ne_nil id), Option.some_or]

namespace NodeSpec

def condition (text : String) : Condition := if text.isEmpty then .always else .expression text

theorem meets_condition (p : Packet) (text : String) :
    p.meets (condition text) = (text.isEmpty || p.holds text) := by
  rw [condition]
  cases text.isEmpty <;> rfl

/-- A trimmed condition and the verdict of a port make a statement without blanks around it. -/
theorem ruleLine_eq {chain text : String} {v : Verdict} (ofPort : v.OfPort) :
    ruleLine ⟨chain, condition (Text.trim text), v⟩ = .rule ⟨chain, condition (Text.trim text), v⟩ := by
  obtain ⟨last, ends, solid⟩ := ofPort.toText_last
  have kept : Text.trim (Rule.statement ⟨chain, condition (Text.trim text), v⟩) =
      Rule.statement ⟨chain, condition (Text.trim text), v⟩ := by
    by_cases empty : (Text.trim text).isEmpty = true
    · rw [condition, if_pos empty]
      refine Text.trim_eq_self (fun c first => ofPort.toText_head first) fun c found => ?_
      cases ends.symm.trans found
      exact solid
    · rw [condition, if_neg empty]
      have whole : (Rule.statement ⟨chain, .expression (Text.trim text), v⟩).toList =
          (Text.trim text).toList ++ (" ".toList ++ v.toText.toList) := by
        have joined : Rule.statement ⟨chain, .expression (Text.trim text), v⟩ =
          Text.trim text ++ " " ++ v.toText := rfl
        rw [joined, String.toList_append, String.toList_append, List.append_assoc]
      have notNil : (Text.trim text).toList ≠ [] := by
        intro nil
        exact empty (String.isEmpty_iff.mpr (String.toList_eq_nil_iff.mp nil))
      refine Text.trim_eq_self (fun c first => ?_) fun c found => ?_
      · rw [whole, List.head?_append_of_ne_nil _ notNil] at first
        exact Text.trim_head first
      · rw [whole, List.getLast?_append, List.getLast?_append, ends] at found
        cases found
        exact solid
  rw [ruleLine, kept, beq_self_eq_true, if_pos rfl]

section

variable {node : NodeView} {outgoing : List Connection} {site : Site}

theorem outputRule_ok (named : site.Named) {values : Entries String String} {name : String} {output : PortSpec}
    {line : ScriptLine} (made : outputRule node outgoing site (chainName node.id) values name output = .ok line) :
    ∃ text v e, render node values output.rule = .ok text ∧ v.exit? = some e ∧
      Departure.Leads site.chains outgoing (.port name) e ∧
      Rule.Placed node outgoing site ⟨chainName node.id, condition (Text.trim text), v⟩ ∧
      line = .rule ⟨chainName node.id, condition (Text.trim text), v⟩ := by
  obtain ⟨text, rendered, made⟩ := bind_ok made
  obtain ⟨v, verdict, made⟩ := bind_ok made
  obtain ⟨e, leaves, leads⟩ := Site.portVerdict_ok verdict
  refine ⟨text, v, e, rendered, leaves, leads, Site.portVerdict_placed verdict _, ?_⟩
  have same : ruleLine ⟨chainName node.id, condition (Text.trim text), v⟩ = line := Except.ok.inj made
  rw [← same]
  exact ruleLine_eq (named.portVerdict_ofPort verdict)

theorem outputs_realized (named : site.Named) {values : Entries String String}
    {outputs : Entries String PortSpec} {lines : List ScriptLine}
    (made : outputs.mapM (fun (name, output) =>
      outputRule node outgoing site (chainName node.id) values name output) = .ok lines) :
    ∃ conditions rules, outputs.mapM (outputCondition node values) = .ok conditions ∧
      lines = rules.map ScriptLine.rule ∧ (∀ r ∈ rules, r.Placed node outgoing site) ∧
      ∀ (p : Packet) (mark : Int), ∃ e, (p.firstOutput conditions).Leads site.chains outgoing e ∧
        p.exit mark rules = (e, mark) := by
  induction outputs generalizing lines with
  | nil =>
    cases made
    exact ⟨[], [], rfl, rfl, fun r member => absurd member List.not_mem_nil, fun p mark => ⟨_, .decided .accept, rfl⟩⟩
  | cons first rest ih =>
    obtain ⟨name, output⟩ := first
    rw [List.mapM_cons] at made
    obtain ⟨line, lineMade, made⟩ := bind_ok made
    obtain ⟨others, othersMade, made⟩ := bind_ok made
    cases made
    obtain ⟨text, v, e, rendered, leaves, leads, here, rfl⟩ := outputRule_ok named lineMade
    obtain ⟨conditions, rules, said, rfl, placed, exits⟩ := ih othersMade
    refine ⟨(name, Text.trim text) :: conditions, ⟨chainName node.id, condition (Text.trim text), v⟩ :: rules,
      ?_, rfl, ?_, ?_⟩
    · have head : outputCondition node values (name, output) = .ok (name, Text.trim text) := by
        rw [outputCondition, rendered]
        rfl
      rw [List.mapM_cons, head, said]
      rfl
    · exact List.forall_mem_cons.mpr ⟨here, placed⟩
    · intro p mark
      rw [Packet.firstOutput_cons]
      cases taken : (Text.trim text).isEmpty || p.holds (Text.trim text) with
      | true => exact ⟨e, leads, p.exit_hit ((meets_condition p _).trans taken) leaves mark _⟩
      | false =>
        obtain ⟨exit, onwards, left⟩ := exits p mark
        exact ⟨exit, onwards, (p.exit_miss ((meets_condition p _).trans taken) mark _).trans left⟩

end

theorem header_closed {node : NodeView} {displayName typeId header : String}
    (headed : node.header displayName typeId = .ok header) : Closed header := by
  obtain ⟨label, -, headed⟩ := bind_ok headed
  cases headed
  exact Closed.append ⟨')', rfl, by decide⟩ _

theorem listing_ok {spec : NodeSpec} {typeId : String} {node : NodeView} {outgoing : List Connection} {site : Site}
    {l : Listing} (named : site.Named) (listed : spec.listing typeId node outgoing site = .ok l) :
    ∃ header files conditions, ∃ setup : List String, ∃ rules : List Rule, Closed header ∧ setup.length = spec.setup.length ∧
      spec.conditions typeId site.dataFolder node = .ok conditions ∧ (∀ r ∈ rules, r.Placed node outgoing site) ∧
      (∀ (p : Packet) (mark : Int), ∃ e, (p.firstOutput conditions).Leads site.chains outgoing e ∧
        p.exit mark rules = (e, mark)) ∧
      l = { lines := .text header :: setup.map .text ++ rules.map .rule, files } := by
  obtain ⟨chain, own, listed⟩ := bind_ok listed
  obtain rfl := named.chain_eq own
  obtain ⟨values, safe, listed⟩ := bind_ok listed
  obtain ⟨header, headed, listed⟩ := bind_ok listed
  obtain ⟨setup, prepared, listed⟩ := bind_ok listed
  obtain ⟨lines, made, listed⟩ := bind_ok listed
  obtain ⟨files, filled, listed⟩ := bind_ok listed
  cases listed
  obtain ⟨conditions, rules, said, rfl, placed, exits⟩ := outputs_realized named made
  have known : spec.conditions typeId site.dataFolder node = .ok conditions := by
    unfold NodeSpec.conditions
    rw [safe]
    exact said
  exact ⟨header, files, conditions, setup, rules, header_closed headed, (mapM_ok prepared).length_eq.symm, known, placed,
    exits, rfl⟩

end NodeSpec

namespace Kind

variable {node : NodeView} {outgoing : List Connection} {site : Site} {l : Listing}

theorem manifest_realized {extension name : String} {spec : NodeSpec} {plain : spec.setup = []} (named : site.Named)
    (listed : spec.listing s!"{extension}:{name}" node outgoing site = .ok l) :
    (manifest extension name spec plain).Realized node outgoing site l := by
  obtain ⟨header, files, conditions, setup, rules, headerClosed, length, known, placed, exits, rfl⟩ :=
    NodeSpec.listing_ok named listed
  rw [plain] at length
  have nothing : setup = [] := List.length_eq_zero_iff.mp length
  subst nothing
  have listed : Listing.rules { lines := .text header :: [].map .text ++ rules.map .rule, files } = rules :=
    ScriptLine.filterMap_rule? rules
  constructor
  case closed =>
    cases last : rules.getLast? with
    | none =>
      rw [List.getLast?_eq_none_iff.mp last]
      exact ScriptLine.joined_closed rfl headerClosed
    | some r =>
      have ends : (ScriptLine.text header :: [].map .text ++ rules.map ScriptLine.rule).getLast? = some (.rule r) := by
        rw [List.getLast?_append, List.getLast?_map, last]
        rfl
      exact ScriptLine.joined_closed ends (ScriptLine.rule_closed r)
  case chains =>
    rw [listed]
    exact fun r member => (placed r member).chain
  case exits =>
    intro p mark
    obtain ⟨e, leads, exit⟩ := exits p mark
    have departs : p.departure site.dataFolder node (.manifest extension name spec plain) =
        .ok (p.firstOutput conditions) := by
      simp only [Packet.departure, known]
      rfl
    rw [listed]
    exact ⟨p.firstOutput conditions, e, departs, leads, exit⟩

/-- Whatever a node lists realizes its kind; the permanent nodes are not emitted. -/
theorem listing_realized {k : Kind} (inner : ∀ b, k = .builtin b → b ≠ .source ∧ b ≠ .localhost)
    (named : site.Named) (listed : k.listing node outgoing site = .ok l) : k.Realized node outgoing site l := by
  cases k with
  | manifest extension name spec plain => exact manifest_realized named listed
  | builtin b =>
    cases b with
    | source => exact absurd rfl (inner _ rfl).1
    | localhost => exact absurd rfl (inner _ rfl).2
    | filter criterion => exact filter_realized named listed
    | addressList => exact list_realized named listed
    | familySplitter => exact splitter_realized named listed
    | nat side => exact nat_realized named listed
    | drop => exact terminal_realized rfl rfl (fun _ => rfl) named listed
    | accept => exact terminal_realized rfl rfl (fun _ => rfl) named listed

end Kind

end FilterGraph
