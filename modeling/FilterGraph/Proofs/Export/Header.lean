import FilterGraph.Proofs.Export.ChainUse
import FilterGraph.Proofs.Manifest.Reordering

namespace FilterGraph

def HasControl (s : String) : Prop := s.toList.any isControl = true

instance (s : String) : Decidable (HasControl s) := inferInstanceAs (Decidable (s.toList.any isControl = true))

theorem not_hasControl_iff {s : String} : ¬ HasControl s ↔ ∀ c ∈ s.toList, isControl c = false := by
  simp [HasControl]

theorem hasControl_append (s t : String) : HasControl (s ++ t) ↔ HasControl s ∨ HasControl t := by
  simp only [HasControl, String.toList_append, List.any_append, Bool.or_eq_true]

section Labels

theorem spacedControls_clean (inRun : Bool) (cs : List Char) : ∀ c ∈ spacedControls inRun cs, isControl c = false := by
  induction cs generalizing inRun with
  | nil => nofun
  | cons c rest ih =>
    rw [spacedControls]
    split
    · rw [List.forall_mem_append]
      refine ⟨?_, ih true⟩
      cases inRun with
      | true => nofun
      | false => exact List.forall_mem_singleton.mpr rfl
    · rename_i plain
      exact List.forall_mem_cons.mpr ⟨by simpa using plain, ih false⟩

theorem hasControl_header {id label typeId : String} (plain : ¬ HasControl label) :
    HasControl s!"# {id}: {label} ({typeId})" ↔ HasControl id ∨ HasControl typeId := by
  have text : s!"# {id}: {label} ({typeId})" = "# " ++ id ++ ": " ++ label ++ " (" ++ typeId ++ ")" := rfl
  have sign : ¬ HasControl "# " := by decide
  have colon : ¬ HasControl ": " := by decide
  have opening : ¬ HasControl " (" := by decide
  have closing : ¬ HasControl ")" := by decide
  rw [text]
  simp only [hasControl_append, sign, colon, opening, closing, plain, or_false, false_or]

theorem NodeView.header_parts {node : NodeView} {displayName typeId header : String}
    (headed : node.header displayName typeId = .ok header) :
    ∃ label, header = s!"# {node.id}: {label} ({typeId})" ∧ ¬ HasControl label := by
  obtain ⟨label, -, headed⟩ := bind_ok headed
  cases headed
  refine ⟨_, rfl, not_hasControl_iff.mpr fun c member => ?_⟩
  rw [String.toList_ofList] at member
  exact spacedControls_clean false label.toList c (Text.trimChars_subset _ member)

end Labels

section Names

theorem isControl_alphanum {c : Char} (plain : c.isAlphanum = true) : isControl c = false := by
  have ranges : ((65 ≤ c.toNat ∧ c.toNat ≤ 90) ∨ (97 ≤ c.toNat ∧ c.toNat ≤ 122)) ∨ (48 ≤ c.toNat ∧ c.toNat ≤ 57) := by
    change ((decide (65 ≤ c.toNat ∧ c.toNat ≤ 90) || (decide (97 ≤ c.toNat) && decide (c.toNat ≤ 122)))
      || (decide (48 ≤ c.toNat) && decide (c.toNat ≤ 57))) = true at plain
    simpa only [Bool.or_eq_true, Bool.and_eq_true, decide_eq_true_eq] using plain
  simp only [isControl, Bool.or_eq_false_iff, decide_eq_false_iff_not, beq_eq_false_iff_ne]
  omega

theorem isAlphanum_of_isLower {c : Char} (lower : c.isLower = true) : c.isAlphanum = true := by
  change ((c.isUpper || c.isLower) || c.isDigit) = true
  rw [lower, Bool.or_true, Bool.true_or]

theorem not_hasControl {s : String} (marks : List Char) (spelt : ∀ c ∈ s.toList, c.isAlphanum = true ∨ c ∈ marks)
    (plain : marks.any isControl = false) : ¬ HasControl s := by
  refine not_hasControl_iff.mpr fun c member => ?_
  rcases spelt c member with letter | mark
  · exact isControl_alphanum letter
  · exact Bool.eq_false_of_not_eq_true (List.any_eq_false.mp plain c mark)

theorem isNodeId_spelt {cs : List Char} (named : isNodeId cs = true) : ∀ c ∈ cs, c.isAlphanum = true ∨ c ∈ ['_', '-'] := by
  cases cs with
  | nil => nofun
  | cons first rest =>
    simp only [isNodeId, Bool.and_eq_true, List.all_eq_true] at named
    refine List.forall_mem_cons.mpr ⟨Or.inl ?_, fun c member => ?_⟩
    · rw [Char.isAlphanum, named.1, Bool.true_or]
    · simpa [or_assoc] using named.2 c member

theorem hasControl_given {id : String} (given : Graph.isGivenId id = true) : HasControl id ↔ id.toList.getLast? = some '\n' := by
  constructor
  · intro control
    by_contra last
    exact not_hasControl _ (isNodeId_spelt ((Graph.isNodeId_iff given).mpr last)) (by decide) control
  · intro last
    exact List.any_eq_true.mpr ⟨'\n', List.mem_of_getLast? last, rfl⟩

theorem Manifest.isId_spelt {cs : List Char} (named : isId cs = true) : ∀ c ∈ cs, c.isAlphanum = true ∨ c ∈ ['_', '-'] := by
  cases cs with
  | nil => nofun
  | cons first rest =>
    simp only [isId, Bool.and_eq_true, List.all_eq_true] at named
    refine List.forall_mem_cons.mpr ⟨Or.inl ?_, fun c member => ?_⟩
    · exact isAlphanum_of_isLower named.1
    · have inside := named.2 c member
      simp only [Bool.or_eq_true, beq_iff_eq] at inside
      rcases inside with ((lower | digit) | low) | dash
      · exact Or.inl (isAlphanum_of_isLower lower)
      · simp [Char.isAlphanum, digit]
      · simp [low]
      · simp [dash]

theorem Builtin.not_hasControl_typeId (b : Builtin) : ¬ HasControl b.typeId := by
  have none : ∀ b ∈ all, ¬ HasControl b.typeId := by decide
  exact none b b.mem_all

theorem NodeSpec.hasControl_typeId {v : Value} {m : Manifest} (checked : Manifest.check v = .ok m) (spec : NodeSpec) (name : String) :
    HasControl (spec.nodeType m.id name).typeId ↔ HasControl name := by
  have text : (spec.nodeType m.id name).typeId = m.id ++ ":" ++ name := rfl
  have extension : ¬ HasControl m.id := not_hasControl _ (Manifest.isId_spelt (Manifest.check_fields checked).1) (by decide)
  have colon : ¬ HasControl ":" := by decide
  rw [text, hasControl_append, hasControl_append]
  simp [extension, colon]

/-- Only a manifest brings control characters into the id of a node type, and only in its name for the type. -/
theorem NodeType.Standard.hasControl_iff {t : NodeType} (standard : t.Standard) :
    HasControl t.typeId ↔ ∃ (extension name : String) (spec : NodeSpec), t = spec.nodeType extension name ∧ HasControl name := by
  cases standard with
  | builtin b =>
    refine iff_of_false b.not_hasControl_typeId ?_
    rintro ⟨extension, name, spec, same, -⟩
    exact b.kind_ne (congrArg NodeType.kind same)
  | @manifest v m checked name spec listed =>
    rw [NodeSpec.hasControl_typeId checked]
    constructor
    · exact fun control => ⟨m.id, name, spec, rfl, control⟩
    · rintro ⟨extension, other, spec', same, control⟩
      obtain rfl : m.id = extension := Option.some.inj (congrArg NodeType.extension? same)
      have texts : m.id ++ ":" ++ name = m.id ++ ":" ++ other := congrArg NodeType.typeId same
      have lists := congrArg String.toList texts
      simp only [String.toList_append, List.append_cancel_left_eq] at lists
      exact String.toList_inj.mp lists ▸ control

end Names

section Sections

/-- A text that is `start` or goes on in a new line after it. -/
def StartsWithLine (start s : String) : Prop := s = start ∨ ∃ more, s = start ++ "\n" ++ more

theorem joined_startsWithLine (header : String) (rest : List ScriptLine) :
    StartsWithLine header (ScriptLine.joined (.text header :: rest)) := by
  cases rest with
  | nil => exact Or.inl (String.intercalate_singleton)
  | cons second others =>
    refine Or.inr ⟨ScriptLine.joined (second :: others), ?_⟩
    rw [ScriptLine.joined, List.map_cons, List.map_cons, String.intercalate_cons_cons]
    rfl

theorem StartsWithLine.withoutFeeds {header s : String} (closed : Closed header) (starts : StartsWithLine header s) :
    StartsWithLine header (withoutFeeds s) := by
  rcases starts with rfl | ⟨more, rfl⟩
  · exact Or.inl closed.withoutFeeds_eq
  · have text : (header ++ "\n" ++ more).toList = header.toList ++ '\n' :: more.toList := by
      rw [String.toList_append, String.toList_append, List.append_assoc]
      rfl
    rw [FilterGraph.withoutFeeds, text, List.reverse_append, List.dropWhile_append]
    split
    · exact Or.inl closed.withoutFeeds_eq
    · rename_i some
      -- what is kept after the header begins as the rest does, with the line feed
      have kept : (('\n' :: more.toList).reverse.dropWhile (· == '\n')).reverse <+: '\n' :: more.toList := by
        rw [← List.reverse_suffix, List.reverse_reverse]
        exact List.dropWhile_suffix _
      rcases List.prefix_cons_iff.mp kept with none | ⟨others, begins, -⟩
      · rw [List.reverse_eq_nil_iff] at none
        rw [none] at some
        exact absurd rfl some
      · refine Or.inr ⟨String.ofList others, ?_⟩
        rw [List.reverse_append, List.reverse_reverse, begins, ← String.toList_inj]
        simp only [String.toList_append, String.toList_ofList, List.append_assoc]
        rfl

theorem intercalate_inner {before after : List String} (left : before ≠ []) (right : after ≠ []) (s : String) :
    ∃ front back, "\n\n".intercalate (before ++ s :: after) = front ++ "\n" ++ s ++ "\n" ++ back := by
  refine ⟨"\n\n".intercalate before ++ "\n", "\n" ++ "\n\n".intercalate after, ?_⟩
  rw [String.intercalate_append_of_ne_nil left (List.cons_ne_nil _ _), String.intercalate_cons_of_ne_nil right,
    ← String.toList_inj]
  simp only [String.toList_append, List.append_assoc]
  rfl

theorem intercalate_between {before after : List String} {header s : String} (left : before ≠ []) (right : after ≠ [])
    (starts : StartsWithLine header s) : ∃ front back,
      "\n\n".intercalate (before ++ s :: after) = front ++ "\n" ++ header ++ "\n" ++ back := by
  obtain ⟨front, back, written⟩ := intercalate_inner left right s
  rcases starts with rfl | ⟨more, rfl⟩
  · exact ⟨front, back, written⟩
  · refine ⟨front, more ++ "\n" ++ back, ?_⟩
    rw [written]
    simp only [String.append_assoc]

end Sections

section Lines

variable {node : NodeView} {outgoing : List Connection} {site : Site} {l : Listing}

def Listing.Headed (l : Listing) (node : NodeView) (displayName typeId : String) : Prop :=
  ∃ header rest, node.header displayName typeId = .ok header ∧ l.lines = .text header :: rest

theorem Builtin.listing_headed {b : Builtin} (inner : b ≠ source ∧ b ≠ localhost) (listed : b.listing node outgoing site = .ok l) :
    l.Headed node b.displayName b.typeId := by
  cases b with
  | source => exact absurd rfl inner.1
  | localhost => exact absurd rfl inner.2
  | filter criterion =>
    obtain ⟨header, _, _, _, _, headed, -, -, -, -, rfl⟩ := filterListing_iff.mp listed
    exact ⟨header, _, headed, rfl⟩
  | addressList =>
    obtain ⟨header, _, _, _, _, _, _, headed, -, -, -, -, -, -, rfl⟩ := addressListListing_parts listed
    exact ⟨header, _, headed, rfl⟩
  | familySplitter =>
    obtain ⟨header, _, _, _, headed, -, -, -, rfl⟩ := splitterListing_parts listed
    exact ⟨header, _, headed, rfl⟩
  | nat side =>
    obtain ⟨header, _, _, _, _, headed, -, -, -, -, rfl⟩ := natListing_parts listed
    exact ⟨header, _, headed, rfl⟩
  | drop | accept =>
    obtain ⟨header, _, headed, -, rfl⟩ := terminalListing_parts listed
    exact ⟨header, _, headed, rfl⟩

theorem NodeSpec.listing_headed {spec : NodeSpec} {typeId : String} (listed : spec.listing typeId node outgoing site = .ok l) :
    l.Headed node spec.displayName typeId := by
  obtain ⟨chain, -, listed⟩ := bind_ok listed
  obtain ⟨values, -, listed⟩ := bind_ok listed
  obtain ⟨header, headed, listed⟩ := bind_ok listed
  obtain ⟨setup, -, listed⟩ := bind_ok listed
  obtain ⟨rules, -, listed⟩ := bind_ok listed
  obtain ⟨files, -, listed⟩ := bind_ok listed
  cases listed
  exact ⟨header, _, headed, rfl⟩

theorem NodeType.Lists.headed {t : NodeType} (lists : t.Lists node outgoing site l)
    (inner : t ≠ Builtin.source.nodeType ∧ t ≠ Builtin.localhost.nodeType) : l.Headed node t.displayName t.typeId := by
  cases lists with
  | @builtin b _ listed =>
    have other : b ≠ .source ∧ b ≠ .localhost := ⟨fun same => inner.1 (same ▸ rfl), fun same => inner.2 (same ▸ rfl)⟩
    exact Builtin.listing_headed other listed
  | manifest listed => exact NodeSpec.listing_headed listed

theorem Plan.sections_split {p : Plan} {s : Settings} {es : List Emission} {e : Emission} {section' : String} (member : e ∈ es)
    (own : e.fragment.section? = some section') : ∃ before after, before ≠ [] ∧ after ≠ [] ∧
      p.sections s es = before ++ section' :: after := by
  obtain ⟨earlier, later, rfl⟩ := List.append_of_mem member
  refine ⟨ScriptLine.joined (Script.preamble s p.analysis.graph p.chains) :: earlier.filterMap (·.fragment.section?),
    later.filterMap (·.fragment.section?) ++ (if (Emission.statements (earlier ++ e :: later)).isEmpty then []
      else [ScriptLine.joined (Script.natLines (Emission.statements (earlier ++ e :: later)))]) ++
      [ScriptLine.joined Script.epilogue], List.cons_ne_nil _ _, List.append_ne_nil_of_right_ne_nil _ (List.cons_ne_nil _ _), ?_⟩
  have here : (e :: later).filterMap (·.fragment.section?) = section' :: later.filterMap (·.fragment.section?) :=
    List.filterMap_cons_some own
  rw [Plan.sections, List.filterMap_append, here]
  simp only [List.cons_append, List.append_assoc]

theorem Listing.Headed.section_eq {displayName typeId : String} (headed : l.Headed node displayName typeId) :
    ∃ header section', node.header displayName typeId = .ok header ∧ l.fragment.section? = some section' ∧
      StartsWithLine header section' := by
  obtain ⟨header, rest, made, lines⟩ := headed
  have closed := NodeSpec.header_closed made
  have solid : l.fragment.script.isEmpty = false := by
    change (ScriptLine.joined l.lines).isEmpty = false
    rw [lines]
    exact ScriptLine.joined_cons_isEmpty closed.not_isEmpty
  have starts : StartsWithLine header l.fragment.script := by
    change StartsWithLine header (ScriptLine.joined l.lines)
    rw [lines]
    exact joined_startsWithLine header rest
  exact ⟨header, _, made, Fragment.section?_eq solid, starts.withoutFeeds closed⟩

end Lines

namespace Graph

variable {r : Registry} {g : Graph} {s : Settings} {files : FileTree} {a : Artifact}

theorem section_headed (wf : g.WellFormed r) (compiled : g.compile s files = .ok a) {n : Node} (present : n ∈ g.nodes)
    (exported : n.id ∈ a.order) (inner : isPermanentId n.id = false) (standard : n.type.Standard) :
    ∃ header before after, n.view.header n.type.displayName n.type.typeId = .ok header ∧
      a.script = before ++ "\n" ++ header ++ "\n" ++ after := by
  obtain ⟨p, mark, e, -, -, -, rfl, member, -, -, -, made⟩ := exported_emission wf compiled present exported inner
  obtain ⟨l, fragment, lists⟩ := standard.emitted made
  have apart : n.type ≠ Builtin.source.nodeType ∧ n.type ≠ Builtin.localhost.nodeType := by
    obtain ⟨source, localhost⟩ := wf.paired n present
    obtain ⟨notSource, notLocalhost⟩ := Bool.or_eq_false_iff.mp inner
    exact ⟨fun type => ne_of_beq_false notSource (source.mp (congrArg NodeType.typeId type)),
      fun type => ne_of_beq_false notLocalhost (localhost.mp (congrArg NodeType.typeId type))⟩
  obtain ⟨header, text, headed, own, starts⟩ := (lists.headed apart).section_eq
  obtain ⟨before, after, left, right, split⟩ := Plan.sections_split member (fragment ▸ own)
  obtain ⟨front, back, written⟩ := intercalate_between left right starts
  refine ⟨header, front, back ++ "\n", headed, ?_⟩
  change "\n\n".intercalate (p.sections s _) ++ "\n" = _
  rw [split, written, String.append_assoc]

/-- The header of a node is a comment line of the script, unless the id of the node ends with a line feed or the node type has
    a name with a control character. -/
theorem header_line (authored : Authored r g) (compiled : g.compile s files = .ok a) {n : Node} (present : n ∈ g.nodes)
    (exported : n.id ∈ a.order) (inner : isPermanentId n.id = false) (standard : n.type.Standard) :
    ∃ header label before after, n.view.header n.type.displayName n.type.typeId = .ok header ∧
      a.script = before ++ "\n" ++ header ++ "\n" ++ after ∧
      header = s!"# {n.id}: {label} ({n.type.typeId})" ∧ ¬ HasControl label ∧
      (HasControl header ↔ n.id.toList.getLast? = some '\n' ∨
        ∃ (extension name : String) (spec : NodeSpec), n.type = spec.nodeType extension name ∧ HasControl name) := by
  obtain ⟨-, wf⟩ := authored.well_formed
  obtain ⟨header, before, after, made, written⟩ := section_headed wf compiled present exported inner standard
  obtain ⟨label, rfl, plain⟩ := NodeView.header_parts made
  refine ⟨_, label, before, after, made, written, rfl, plain, ?_⟩
  rw [hasControl_header plain, standard.hasControl_iff]
  have given : HasControl n.id ↔ n.id.toList.getLast? = some '\n' := hasControl_given (authored.given n present)
  exact or_congr_left given

def torn : Graph :=
  Graph.new.edits .builtin
    [.add "core:drop" (some "a\n") [] (.list [.int 0, .int 0]), .connect ⟨⟨sourceId, "out"⟩, ⟨"a\n", "in"⟩⟩]

def tornKind : String → Kind
  | "source" => .builtin .source
  | "localhost" => .builtin .localhost
  | _ => .builtin .drop

theorem torn_nodes : torn.nodes = [{ id := sourceId, type := Builtin.source.nodeType },
    { id := localhostId, type := Builtin.localhost.nodeType }, { id := "a\n", type := Builtin.drop.nodeType }] := by rfl

theorem torn_compiled : ∃ a, torn.compile {} (.empty (Path.ofText "/")) = .ok a ∧ "a\n" ∈ a.order := by
  let p : Plan := ⟨⟨⟨torn, [], []⟩, torn.coloring⟩, [sourceId, "a\n", localhostId],
    [(sourceId, "source"), ("a\n", "n_a_"), (localhostId, "localhost")]⟩
  let ls : Entries String Listing :=
    [("a\n", { lines := [.text "# a\n: Drop (core:drop)", .rule ⟨"n_a_", .always, .drop⟩] })]
  have analyzed : torn.analyze = ⟨⟨torn, [], []⟩, torn.coloring⟩ :=
    analyze_eq (by decide +kernel) ((CycleSearch.run_eq 10 (by decide +kernel)).trans (by decide +kernel))
  have planned : Plan.ofAnalysis torn.analyze = .ok p := by
    rw [analyzed]
    unfold p
    generalize torn.coloring = colors
    rfl
  have known : torn.Known tornKind := by
    intro n member
    rw [torn_nodes] at member
    simp only [List.mem_cons, List.not_mem_nil, or_false] at member
    rcases member with rfl | rfl | rfl <;> rfl
  have listed : p.listings tornKind {} (.empty (Path.ofText "/")) = .ok ls := by
    unfold p
    generalize torn.coloring = colors
    rfl
  have fine : ∀ e ∈ ls, e.2.fragment.problem? {} = none :=
    List.forall_mem_singleton.mpr (Fragment.problem?_plain rfl rfl)
  exact ⟨_, compile_eq planned known listed fine (by decide +kernel), List.mem_cons_of_mem _ List.mem_cons_self⟩

theorem header_torn : ∃ (a : Artifact) (before after : String), torn.compile {} (.empty (Path.ofText "/")) = .ok a ∧
    a.script = before ++ "\n" ++ "# a\n: Drop (core:drop)" ++ "\n" ++ after := by
  obtain ⟨a, compiled, exported⟩ := torn_compiled
  let n : Node := { id := "a\n", type := Builtin.drop.nodeType }
  have present : n ∈ torn.nodes := by simp [torn_nodes, n]
  obtain ⟨header, label, before, after, made, written, -, -, -⟩ :=
    header_line (.edits (.new .builtin) _) compiled present exported (by decide) (.builtin .drop)
  have same : n.view.header n.type.displayName n.type.typeId = .ok "# a\n: Drop (core:drop)" := by decide +kernel
  cases same.symm.trans made
  exact ⟨a, before, after, compiled, written⟩

end Graph

end FilterGraph
