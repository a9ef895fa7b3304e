import FilterGraph.Proofs.Export.Lines
import FilterGraph.Proofs.Outcome
import FilterGraph.Proofs.Packet.Walk

namespace FilterGraph

namespace Listing

def rules (l : Listing) : List Rule := l.lines.filterMap ScriptLine.rule?

end Listing

namespace Kind

def listing : Kind → NodeView → List Connection → Site → Except EmitError Listing
  | .builtin b => b.listing
  | .manifest extension name spec _ => spec.listing s!"{extension}:{name}"

theorem emit_eq (k : Kind) (node : NodeView) (incoming outgoing : List Connection) (site : Site) :
    k.nodeType.emit node incoming outgoing site = (k.listing node outgoing site).map Listing.fragment := by
  cases k <;> rfl

end Kind

theorem Param.given_ok_iff {p : Param} {params : Params} {text : String} : p.given params = .ok text ↔
    (∃ value whole, params.get? p.name = some value ∧ value.isNull = false ∧ value.written = .ok whole ∧
        text = Text.trim whole) ∨
      (∃ value, params.get? p.name = some value ∧ value.isNull = true ∧ text = "") ∨
      (params.get? p.name = none ∧ text = Text.trim (p.default?.getD "")) := by
  constructor
  · intro read
    unfold given at read
    split at read
    case h_1 value found =>
      cases null : value.isNull with
      | true =>
        rw [null] at read
        cases read
        exact .inr (.inl ⟨value, found, null, rfl⟩)
      | false =>
        rw [null] at read
        obtain ⟨whole, written, rfl⟩ := map_ok read
        exact .inl ⟨value, whole, found, null, written, rfl⟩
    case h_2 none =>
      cases read
      exact .inr (.inr ⟨none, rfl⟩)
  · rintro (⟨value, whole, found, null, written, rfl⟩ | ⟨value, found, null, rfl⟩ | ⟨none, rfl⟩)
    · simp only [given, found, null, written]
      rfl
    · simp only [given, found, null, if_true]
    · simp only [given, none]

/-- Where a departure leads, among the connections that leave a node and the chains of the nodes behind. -/
inductive Departure.Leads (chains : Entries String String) (outgoing : List Connection) : Departure → Exit → Prop
  | decided (d : Decision) : Leads chains outgoing (.decided d) (.decided d)
  | free {port : String} (none : Connection.leaving port outgoing = none) :
      Leads chains outgoing (.port port) (.decided .accept)
  | connected {port chain : String} {c : Connection} (leaving : Connection.leaving port outgoing = some c)
      (known : chains.get? c.input.node = some chain) : Leads chains outgoing (.port port) (.goto chain)

namespace Site

theorem chain_ok {site : Site} {node chain : String} :
    site.chain node = .ok chain ↔ site.chains.get? node = some chain := by
  unfold Site.chain
  cases site.chains.get? node <;> simp

def Named (site : Site) : Prop := ∀ id chain, site.chains.get? id = some chain → chain = chainName id

theorem Named.chain_eq {site : Site} (named : site.Named) {node chain : String}
    (own : site.chain node = .ok chain) : chain = chainName node := named node chain (chain_ok.mp own)

theorem portVerdict_ok {site : Site} {outgoing : List Connection} {port : String} {v : Verdict}
    (made : site.portVerdict outgoing port = .ok v) :
    ∃ e, v.exit? = some e ∧ Departure.Leads site.chains outgoing (.port port) e := by
  unfold portVerdict verdict at made
  cases leaving : Connection.leaving port outgoing with
  | none =>
    simp only [leaving] at made
    cases made
    exact ⟨_, rfl, .free leaving⟩
  | some c =>
    simp only [leaving] at made
    obtain ⟨chain, known, rfl⟩ := map_ok made
    exact ⟨_, rfl, .connected leaving (chain_ok.mp known)⟩

end Site

/-- A rule in the chain of a node, which sends packets on only along a connection that leaves the node. -/
structure Rule.Placed (node : NodeView) (outgoing : List Connection) (site : Site) (r : Rule) : Prop where
  chain : r.chain = chainName node.id
  goto : ∀ target, r.verdict = .goto target → ∃ c ∈ outgoing, site.chains.get? c.input.node = some target

theorem Site.portVerdict_placed {node : NodeView} {outgoing : List Connection} {site : Site} {port : String} {v : Verdict}
    (made : site.portVerdict outgoing port = .ok v) (condition : Condition) :
    Rule.Placed node outgoing site ⟨chainName node.id, condition, v⟩ := by
  refine ⟨rfl, fun target goto => ?_⟩
  have goto : v = .goto target := goto
  obtain ⟨e, leaves, leads⟩ := portVerdict_ok made
  rw [goto] at leaves
  cases leaves
  cases leads with
  | connected leaving known => exact ⟨_, List.mem_of_find?_eq_some leaving, known⟩

namespace Builtin

variable {node : NodeView} {outgoing : List Connection} {site : Site} {l : Listing}

theorem header_ok {b : Builtin} {line : ScriptLine} (made : b.header node = .ok line) :
    ∃ text, node.header b.displayName b.typeId = .ok text ∧ line = .text text := by
  obtain ⟨text, written, rfl⟩ := map_ok made
  exact ⟨text, written, rfl⟩

theorem filter_resolve_ok {criterion : Criterion} {values : Entries String String} : (filter criterion).resolve node = .ok values ↔
    ∃ text, criterion.param.given node.params = .ok text ∧ text ≠ "" ∧ values = [(criterion.param.name, text)] := by
  have required : criterion.param.required = true := by rcases criterion with _ | ⟨_ | _⟩ | ⟨_ | _⟩ | _ <;> rfl
  rw [resolve, NodeType.resolve, mapError_ok]
  change Param.resolve [criterion.param] node.params = .ok values ↔ _
  rw [Param.resolve, List.foldlM_cons]
  cases criterion.param.given node.params with
  | error u => simp [Except.mapError, Bind.bind, Except.bind]
  | ok text =>
    by_cases blank : text = ""
    · subst blank
      simp [Except.mapError, Bind.bind, Except.bind, required]
    · simp [Except.mapError, Bind.bind, Except.bind, blank, Pure.pure, Except.pure, Entries.set, Entries.setBy]
      exact eq_comm

theorem filterExpression_ok {criterion : Criterion} {expression : String} : filterExpression criterion node = .ok expression ↔
    ∃ text, criterion.param.given node.params = .ok text ∧ text ≠ "" ∧ criterion.expression text = .ok expression := by
  constructor
  · intro said
    obtain ⟨values, resolved, said⟩ := bind_ok said
    obtain ⟨text, given, filled, rfl⟩ := filter_resolve_ok.mp resolved
    have held : Entries.get? criterion.param.name [(criterion.param.name, text)] = some text := by simp [Entries.get?]
    rw [held] at said
    exact ⟨text, given, filled, mapError_ok.mp said⟩
  · rintro ⟨text, given, filled, said⟩
    have resolved := filter_resolve_ok.mpr ⟨text, given, filled, rfl⟩
    have held : Entries.get? criterion.param.name [(criterion.param.name, text)] = some text := by simp [Entries.get?]
    simp [filterExpression, resolved, held, said, Bind.bind, Except.bind, Except.mapError]

theorem filterListing_iff {criterion : Criterion} :
    filterListing criterion node outgoing site = .ok l ↔ ∃ text chain expression onMatch otherwise,
      node.header (filter criterion).displayName (filter criterion).typeId = .ok text ∧ site.chain node.id = .ok chain ∧
      filterExpression criterion node = .ok expression ∧
      site.portVerdict outgoing "match" = .ok onMatch ∧ site.portVerdict outgoing "non-match" = .ok otherwise ∧
      l = { lines := [.text text, .rule ⟨chain, .expression expression, onMatch⟩, .rule ⟨chain, .always, otherwise⟩] } := by
  constructor
  · intro listed
    obtain ⟨values, resolved, listed⟩ := bind_ok listed
    obtain ⟨chain, own, listed⟩ := bind_ok listed
    obtain ⟨expression, said, listed⟩ := bind_ok listed
    obtain ⟨header, headed, listed⟩ := bind_ok listed
    obtain ⟨onMatch, matching, listed⟩ := bind_ok listed
    obtain ⟨otherwise, others, listed⟩ := bind_ok listed
    obtain ⟨text, written, rfl⟩ := header_ok headed
    cases listed
    have departs : filterExpression criterion node = .ok expression := by
      unfold filterExpression
      rw [resolved]
      exact said
    exact ⟨text, chain, expression, onMatch, otherwise, written, own, departs, matching, others, rfl⟩
  · rintro ⟨text, chain, expression, onMatch, otherwise, headed, own, said, matching, others, rfl⟩
    obtain ⟨values, resolved, said⟩ := bind_ok said
    have header : (filter criterion).header node = .ok (.text text) := by
      rw [header, headed]
      rfl
    exact (ok_bind resolved).trans <| (ok_bind own).trans <| (ok_bind said).trans <| (ok_bind header).trans <|
      (ok_bind matching).trans <| ok_bind others

theorem addressListListing_parts (listed : addressListListing node outgoing site = .ok l) :
    ∃ text chain values selector onMatch otherwise, ∃ list : AddressList,
      node.header addressList.displayName addressList.typeId = .ok text ∧ site.chain node.id = .ok chain ∧
      addressList.resolve node = .ok values ∧ fieldSelector? ((values.get? "field").getD "") = some selector ∧
      AddressList.load site node.id ((values.get? "path").getD "") = .ok list ∧
      site.portVerdict outgoing "match" = .ok onMatch ∧ site.portVerdict outgoing "non-match" = .ok otherwise ∧
      l = { lines := .text text ::
              AddressList.familyLines chain (site.dataPath node.id "addresses.txt") selector true list.v4 onMatch ++
              AddressList.familyLines chain (site.dataPath node.id "addresses.txt") selector false list.v6 onMatch ++
              [.rule ⟨chain, .always, otherwise⟩]
            files := [("addresses.txt", list.content)] } := by
  obtain ⟨values, resolved, listed⟩ := bind_ok listed
  cases selected : fieldSelector? ((values.get? "field").getD "") with
  | none =>
    simp only [selected] at listed
    obtain ⟨_, refused, -⟩ := bind_ok listed
    cases refused
  | some selector =>
    simp only [selected] at listed
    obtain ⟨_, same, listed⟩ := bind_ok listed
    cases same
    obtain ⟨list, loaded, listed⟩ := bind_ok listed
    obtain ⟨chain, own, listed⟩ := bind_ok listed
    obtain ⟨onMatch, matching, listed⟩ := bind_ok listed
    obtain ⟨header, headed, listed⟩ := bind_ok listed
    obtain ⟨otherwise, others, listed⟩ := bind_ok listed
    obtain ⟨text, written, rfl⟩ := header_ok headed
    cases listed
    exact ⟨text, chain, values, selector, onMatch, otherwise, list, written, own, resolved, selected, loaded, matching,
      others, rfl⟩

theorem splitterListing_parts (listed : splitterListing node outgoing site = .ok l) :
    ∃ text chain v4 v6, node.header familySplitter.displayName familySplitter.typeId = .ok text ∧
      site.chain node.id = .ok chain ∧
      site.portVerdict outgoing "ipv4" = .ok v4 ∧ site.portVerdict outgoing "ipv6" = .ok v6 ∧
      l = { lines := [.text text, .rule ⟨chain, .family .ipv4, v4⟩, .rule ⟨chain, .family .ipv6, v6⟩] } := by
  obtain ⟨chain, own, listed⟩ := bind_ok listed
  obtain ⟨header, headed, listed⟩ := bind_ok listed
  obtain ⟨v4, first, listed⟩ := bind_ok listed
  obtain ⟨v6, second, listed⟩ := bind_ok listed
  obtain ⟨text, written, rfl⟩ := header_ok headed
  cases listed
  exact ⟨text, chain, v4, v6, written, own, first, second, rfl⟩

theorem natListing_parts {side : Side} (listed : natListing side node outgoing site = .ok l) :
    ∃ text chain values target next, node.header (nat side).displayName (nat side).typeId = .ok text ∧
      site.chain node.id = .ok chain ∧ (nat side).resolve node = .ok values ∧
      networks ((values.get? "address").getD "") = .ok [target] ∧ site.portVerdict outgoing "out" = .ok next ∧
      l = { lines := [.text text, .rule ⟨chain, .always, .mark site.mark⟩, .rule ⟨chain, .always, next⟩]
            nat := [(side.hook, [natStatement side site.mark target])] } := by
  obtain ⟨values, resolved, listed⟩ := bind_ok listed
  obtain ⟨found, read, listed⟩ := bind_ok listed
  match found, listed with
  | [], listed | _ :: _ :: _, listed =>
    obtain ⟨_, refused, -⟩ := bind_ok listed
    cases refused
  | [target], listed =>
    obtain ⟨_, same, listed⟩ := bind_ok listed
    cases same
    obtain ⟨chain, own, listed⟩ := bind_ok listed
    obtain ⟨header, headed, listed⟩ := bind_ok listed
    obtain ⟨next, going, listed⟩ := bind_ok listed
    obtain ⟨text, written, rfl⟩ := header_ok headed
    cases listed
    exact ⟨text, chain, values, target, next, written, own, resolved, mapError_ok.mp read, going, rfl⟩

theorem terminalListing_parts {b : Builtin} {v : Verdict} (listed : terminalListing b v node site = .ok l) :
    ∃ text chain, node.header b.displayName b.typeId = .ok text ∧ site.chain node.id = .ok chain ∧
      l = { lines := [.text text, .rule ⟨chain, .always, v⟩] } := by
  obtain ⟨chain, own, listed⟩ := bind_ok listed
  obtain ⟨header, headed, listed⟩ := bind_ok listed
  obtain ⟨text, written, rfl⟩ := header_ok headed
  cases listed
  exact ⟨text, chain, written, own, rfl⟩

end Builtin

namespace Kind

structure Realized (k : Kind) (node : NodeView) (outgoing : List Connection) (site : Site) (l : Listing) : Prop where
  closed : Closed (ScriptLine.joined l.lines)
  chains : ∀ r ∈ l.rules, r.chain = chainName node.id
  exits : ∀ (p : Packet) (mark : Int), ∃ departure e, p.departure site.dataFolder node k = .ok departure ∧
    departure.Leads site.chains outgoing e ∧ p.exit mark l.rules = (e, if k.isNat then site.mark else mark)

section Builtin

variable {node : NodeView} {outgoing : List Connection} {site : Site} {l : Listing}

theorem filterListing_ok {criterion : Criterion} (named : site.Named)
    (listed : Builtin.filterListing criterion node outgoing site = .ok l) :
    ∃ text expression onMatch otherwise, Builtin.filterExpression criterion node = .ok expression ∧
      site.portVerdict outgoing "match" = .ok onMatch ∧ site.portVerdict outgoing "non-match" = .ok otherwise ∧
      l = { lines := [.text text, .rule ⟨chainName node.id, .expression expression, onMatch⟩,
              .rule ⟨chainName node.id, .always, otherwise⟩] } := by
  obtain ⟨text, chain, expression, onMatch, otherwise, -, own, departs, matching, others, rfl⟩ :=
    Builtin.filterListing_iff.mp listed
  obtain rfl := named.chain_eq own
  exact ⟨text, expression, onMatch, otherwise, departs, matching, others, rfl⟩

theorem filter_realized {criterion : Criterion} (named : site.Named)
    (listed : Builtin.filterListing criterion node outgoing site = .ok l) :
    (builtin (.filter criterion)).Realized node outgoing site l := by
  obtain ⟨text, expression, onMatch, otherwise, departs, matching, others, rfl⟩ := filterListing_ok named listed
  have rules : Listing.rules { lines := [.text text, .rule ⟨chainName node.id, .expression expression, onMatch⟩,
      .rule ⟨chainName node.id, .always, otherwise⟩] } =
      [⟨chainName node.id, .expression expression, onMatch⟩, ⟨chainName node.id, .always, otherwise⟩] := rfl
  constructor
  case closed => exact ScriptLine.joined_closed rfl (ScriptLine.rule_closed _)
  case chains =>
    intro r member
    rw [rules] at member
    rcases List.mem_cons.mp member with rfl | member
    · rfl
    · rw [List.mem_singleton.mp member]
  case exits =>
    intro p mark
    have said : p.departure site.dataFolder node (builtin (.filter criterion)) =
        .ok (.port (if p.holds expression then "match" else "non-match")) := by
      simp only [Packet.departure, Packet.builtinDeparture, departs]
      rfl
    rw [rules]
    cases hit : p.holds expression with
    | true =>
      obtain ⟨e, leaves, leads⟩ := Site.portVerdict_ok matching
      exact ⟨_, e, said, by rwa [hit], Packet.exit_true hit leaves mark _⟩
    | false =>
      obtain ⟨e, leaves, leads⟩ := Site.portVerdict_ok others
      refine ⟨_, e, said, by rwa [hit], ?_⟩
      rw [Packet.exit_false hit]
      exact Packet.exit_always leaves mark _

theorem familyLines_rules (chain file selector : String) (isV4 : Bool) (entries : List Network) (v : Verdict) :
    (AddressList.familyLines chain file selector isV4 entries v).filterMap ScriptLine.rule? =
      [⟨chain, .expression (AddressList.lookup chain selector isV4), v⟩] := by
  cases entries <;> rfl

theorem addressListListing_ok (named : site.Named)
    (listed : Builtin.addressListListing node outgoing site = .ok l) :
    ∃ text file selector onMatch otherwise, ∃ list : AddressList,
      Builtin.listExpressions node = .ok [AddressList.lookup (chainName node.id) selector true,
        AddressList.lookup (chainName node.id) selector false] ∧
      site.portVerdict outgoing "match" = .ok onMatch ∧ site.portVerdict outgoing "non-match" = .ok otherwise ∧
      l = { lines := .text text :: AddressList.familyLines (chainName node.id) file selector true list.v4 onMatch ++
              AddressList.familyLines (chainName node.id) file selector false list.v6 onMatch ++
              [.rule ⟨chainName node.id, .always, otherwise⟩]
            files := [("addresses.txt", list.content)] } := by
  obtain ⟨text, chain, values, selector, onMatch, otherwise, list, -, own, resolved, selected, -, matching, others, rfl⟩ :=
    Builtin.addressListListing_parts listed
  obtain rfl := named.chain_eq own
  refine ⟨text, site.dataPath node.id "addresses.txt", selector, onMatch, otherwise, list, ?_, matching, others, rfl⟩
  unfold Builtin.listExpressions
  rw [resolved]
  simp only [selected, Bind.bind, Except.bind]
  rfl

theorem list_realized (named : site.Named)
    (listed : Builtin.addressListListing node outgoing site = .ok l) :
    (builtin .addressList).Realized node outgoing site l := by
  obtain ⟨text, file, selector, onMatch, otherwise, list, expressions, matching, others, rfl⟩ :=
    addressListListing_ok named listed
  set v4 := AddressList.lookup (chainName node.id) selector true
  set v6 := AddressList.lookup (chainName node.id) selector false
  have rules : Listing.rules { lines := .text text ::
        AddressList.familyLines (chainName node.id) file selector true list.v4 onMatch ++
        AddressList.familyLines (chainName node.id) file selector false list.v6 onMatch ++
        [.rule ⟨chainName node.id, .always, otherwise⟩], files := [("addresses.txt", list.content)] } =
      [⟨chainName node.id, .expression v4, onMatch⟩, ⟨chainName node.id, .expression v6, onMatch⟩,
        ⟨chainName node.id, .always, otherwise⟩] := by
    rw [Listing.rules, List.cons_append, List.cons_append, List.filterMap_cons]
    simp only [ScriptLine.rule?, List.filterMap_append, familyLines_rules]
    rfl
  constructor
  case closed => exact ScriptLine.joined_closed List.getLast?_concat (ScriptLine.rule_closed _)
  case chains =>
    intro r member
    rw [rules] at member
    simp only [List.mem_cons, List.not_mem_nil, or_false] at member
    rcases member with rfl | rfl | rfl <;> rfl
  case exits =>
    intro p mark
    have said : p.departure site.dataFolder node (builtin .addressList) =
        .ok (.port (if [v4, v6].any p.holds then "match" else "non-match")) := by
      simp only [Packet.departure, Packet.builtinDeparture, expressions]
      rfl
    simp only [List.any_cons, List.any_nil, Bool.or_false] at said
    rw [rules]
    -- one set is looked up after the other, and the packet matches when either holds it
    cases first : p.holds v4 with
    | true =>
      obtain ⟨e, leaves, leads⟩ := Site.portVerdict_ok matching
      exact ⟨_, e, said, by rwa [first, Bool.true_or], Packet.exit_true first leaves mark _⟩
    | false =>
      rw [Packet.exit_false first]
      cases second : p.holds v6 with
      | true =>
        obtain ⟨e, leaves, leads⟩ := Site.portVerdict_ok matching
        exact ⟨_, e, said, by rwa [first, second, Bool.or_true], Packet.exit_true second leaves mark _⟩
      | false =>
        obtain ⟨e, leaves, leads⟩ := Site.portVerdict_ok others
        rw [Packet.exit_false second]
        exact ⟨_, e, said, by rwa [first, second], Packet.exit_always leaves mark _⟩

theorem splitterListing_ok (named : site.Named)
    (listed : Builtin.splitterListing node outgoing site = .ok l) :
    ∃ text v4 v6, site.portVerdict outgoing "ipv4" = .ok v4 ∧ site.portVerdict outgoing "ipv6" = .ok v6 ∧
      l = { lines := [.text text, .rule ⟨chainName node.id, .family .ipv4, v4⟩,
              .rule ⟨chainName node.id, .family .ipv6, v6⟩] } := by
  obtain ⟨text, chain, v4, v6, -, own, first, second, rfl⟩ := Builtin.splitterListing_parts listed
  obtain rfl := named.chain_eq own
  exact ⟨text, v4, v6, first, second, rfl⟩

theorem splitter_realized (named : site.Named)
    (listed : Builtin.splitterListing node outgoing site = .ok l) :
    (builtin .familySplitter).Realized node outgoing site l := by
  obtain ⟨text, v4, v6, first, second, rfl⟩ := splitterListing_ok named listed
  have rules : Listing.rules { lines := [.text text, .rule ⟨chainName node.id, .family .ipv4, v4⟩,
      .rule ⟨chainName node.id, .family .ipv6, v6⟩] } =
      [⟨chainName node.id, .family .ipv4, v4⟩, ⟨chainName node.id, .family .ipv6, v6⟩] := rfl
  constructor
  case closed => exact ScriptLine.joined_closed rfl (ScriptLine.rule_closed _)
  case chains =>
    intro r member
    rw [rules] at member
    rcases List.mem_cons.mp member with rfl | member
    · rfl
    · rw [List.mem_singleton.mp member]
  case exits =>
    intro p mark
    rw [rules]
    cases family : p.family with
    | inet => exact absurd family p.concrete
    | ipv4 =>
      obtain ⟨e, leaves, leads⟩ := Site.portVerdict_ok first
      have hit : p.meets (.family .ipv4) = true := beq_iff_eq.mpr family
      exact ⟨.port p.family.name, e, rfl, by rwa [family], p.exit_hit hit leaves mark _⟩
    | ipv6 =>
      obtain ⟨e, leaves, leads⟩ := Site.portVerdict_ok second
      have miss : p.meets (.family .ipv4) = false := beq_eq_false_iff_ne.mpr (by rw [family]; decide)
      have hit : p.meets (.family .ipv6) = true := beq_iff_eq.mpr family
      refine ⟨.port p.family.name, e, rfl, by rwa [family], ?_⟩
      rw [p.exit_miss miss]
      exact p.exit_hit hit leaves mark _

theorem natListing_ok {side : Side} (named : site.Named)
    (listed : Builtin.natListing side node outgoing site = .ok l) :
    ∃ text target next, site.portVerdict outgoing "out" = .ok next ∧
      l = { lines := [.text text, .rule ⟨chainName node.id, .always, .mark site.mark⟩,
              .rule ⟨chainName node.id, .always, next⟩]
            nat := [(side.hook, [Builtin.natStatement side site.mark target])] } := by
  obtain ⟨text, chain, values, target, next, -, own, -, -, going, rfl⟩ := Builtin.natListing_parts listed
  obtain rfl := named.chain_eq own
  exact ⟨text, target, next, going, rfl⟩

theorem nat_realized {side : Side} (named : site.Named)
    (listed : Builtin.natListing side node outgoing site = .ok l) :
    (builtin (.nat side)).Realized node outgoing site l := by
  obtain ⟨text, target, next, going, rfl⟩ := natListing_ok named listed
  constructor
  case closed => exact ScriptLine.joined_closed rfl (ScriptLine.rule_closed _)
  case chains =>
    intro r member
    rcases List.mem_cons.mp member with rfl | member
    · rfl
    · rw [List.mem_singleton.mp member]
  case exits =>
    intro p mark
    obtain ⟨e, leaves, leads⟩ := Site.portVerdict_ok going
    refine ⟨.port "out", e, rfl, leads, ?_⟩
    exact Packet.exit_always leaves site.mark []

theorem terminalListing_ok {b : Builtin} {v : Verdict} (named : site.Named)
    (listed : Builtin.terminalListing b v node site = .ok l) :
    ∃ text, l = { lines := [.text text, .rule ⟨chainName node.id, .always, v⟩] } := by
  obtain ⟨text, chain, -, own, rfl⟩ := Builtin.terminalListing_parts listed
  obtain rfl := named.chain_eq own
  exact ⟨text, rfl⟩

theorem terminal_realized {b : Builtin} {v : Verdict} {d : Decision} (leaves : v.exit? = some (.decided d))
    (plain : (builtin b).isNat = false) (decides : ∀ p : Packet, p.builtinDeparture node b = .ok (.decided d))
    (named : site.Named)
    (listed : Builtin.terminalListing b v node site = .ok l) : (builtin b).Realized node outgoing site l := by
  obtain ⟨text, rfl⟩ := terminalListing_ok named listed
  constructor
  case closed => exact ScriptLine.joined_closed rfl (ScriptLine.rule_closed _)
  case chains =>
    intro r member
    rw [List.mem_singleton.mp member]
  case exits =>
    intro p mark
    refine ⟨.decided d, .decided d, decides p, .decided d, ?_⟩
    rw [plain]
    exact Packet.exit_always leaves mark []

end Builtin

end Kind
end FilterGraph
