import FilterGraph.PacketPath
import FilterGraph.Proofs.Entries
import FilterGraph.Proofs.Export.Order

namespace FilterGraph

/-- The ways along connections that start at the source, with the nodes they end at. -/
inductive Trail (connections : List Connection) : String → List Connection → Prop
  | start : Trail connections sourceId []
  | step {path : List Connection} {c : Connection} (trail : Trail connections c.output.node path)
      (member : c ∈ connections) : Trail connections c.input.node (path ++ [c])

namespace Trail

variable {done more : List Connection} {id : String} {path : List Connection} {c : Connection}

theorem subset (trail : Trail done id path) : path ⊆ done := by
  induction trail with
  | start => exact List.nil_subset _
  | step _ member ih => exact List.append_subset.mpr ⟨ih, List.cons_subset.mpr ⟨member, List.nil_subset _⟩⟩

theorem iff : Trail done id path ↔ id = sourceId ∧ path = [] ∨
    ∃ c ∈ done, c.input.node = id ∧ ∃ before, Trail done c.output.node before ∧ before ++ [c] = path := by
  constructor
  · intro trail
    cases trail with
    | start => exact Or.inl ⟨rfl, rfl⟩
    | step trail member => exact Or.inr ⟨_, member, rfl, _, trail, rfl⟩
  · rintro (⟨rfl, rfl⟩ | ⟨c, member, rfl, before, trail, rfl⟩)
    · exact .start
    · exact .step trail member

theorem mono (trail : Trail done id path) (known : done ⊆ more) : Trail more id path := by
  induction trail with
  | start => exact .start
  | step _ member ih => exact .step ih (known member)

/-- When nothing leaves the node that the last connection enters, only that connection itself can be new on a way,
    as its last step. -/
theorem append_iff (apart : ∀ d ∈ done ++ [c], d.output.node ≠ c.input.node) :
    Trail (done ++ [c]) id path ↔
      Trail done id path ∨ id = c.input.node ∧ ∃ before, path = before ++ [c] ∧ Trail done c.output.node before := by
  constructor
  · intro trail
    induction trail with
    | start => exact Or.inl .start
    | @step _ d _ member ih =>
      -- The way before its last step cannot have taken the new connection: nothing leaves the node that one enters.
      rcases ih with old | ⟨end', -⟩
      · rcases List.mem_append.mp member with known | new
        · exact Or.inl (.step old known)
        · cases List.mem_singleton.mp new
          exact Or.inr ⟨rfl, _, rfl, old⟩
      · exact absurd end' (apart d member)
  · rintro (old | ⟨rfl, before, rfl, old⟩)
    · exact old.mono (List.subset_append_left _ _)
    · exact .step (old.mono (List.subset_append_left _ _)) (List.mem_append_right _ List.mem_cons_self)

end Trail

namespace Graph

def condition (g : Graph) (c : Connection) : Except Unwritable (Option Predicate) :=
  match g.node? c.output.node with
  | some n => n.type.predicate n.view c.output.port
  | none => .ok none

def description (g : Graph) (path : List Connection) : Except Unwritable PacketPath := do
  let conditions ← (path.filter fun c => !isPermanentId c.output.node).mapM g.condition
  return conditions.filterMap id

def addition (c : Connection) (condition? : Option Predicate) : PacketPath :=
  if isPermanentId c.output.node then [] else condition?.toList

theorem description_append {g : Graph} {path : List Connection} {c : Connection} {before : PacketPath}
    {condition? : Option Predicate} (described : g.description path = .ok before)
    (stated : g.condition c = .ok condition?) :
    g.description (path ++ [c]) = .ok (before ++ addition c condition?) := by
  unfold description at described ⊢
  obtain ⟨conditions, listed, given⟩ := bind_ok described
  cases given
  rw [List.filter_append, List.mapM_append, listed]
  cases permanent : isPermanentId c.output.node with
  | true => simp [addition, permanent, Bind.bind, Except.bind, Pure.pure, Except.pure]
  | false =>
    cases condition? <;>
      simp [addition, permanent, stated, Bind.bind, Except.bind, Pure.pure, Except.pure]

def held (known : Entries String (List PacketPath)) (id : String) : List PacketPath := (known.get? id).getD []

def atSource (order : List String) : Entries String (List PacketPath) :=
  order.map fun id => (id, if id == sourceId then [[]] else [])

def pass (g : Graph) (known : Entries String (List PacketPath)) (c : Connection) :
    Except Unwritable (Entries String (List PacketPath)) :=
  match g.node? c.output.node with
  | some n => handOn n known c
  | none => .ok known

theorem reaching_eq (g : Graph) (order : List String) :
    g.reaching order = (order.flatMap g.outgoing).foldlM g.pass (atSource order) := by
  have fold : ∀ known, (order.filterMap g.node?).foldlM (fun known n => (g.outgoingOf n).foldlM (handOn n) known) known =
      (order.flatMap g.outgoing).foldlM g.pass known := by
    induction order with
    | nil => exact fun _ => rfl
    | cons id rest ih =>
      intro known
      rw [List.flatMap_cons, List.foldlM_append]
      cases found : g.node? id with
      | none =>
        have none : g.outgoing id = [] := by rw [outgoing, found]; rfl
        rw [List.filterMap_cons, found, none]
        exact ih known
      | some n =>
        have same : ∀ known, (g.outgoingOf n).foldlM (handOn n) known = (g.outgoing id).foldlM g.pass known := by
          intro known
          rw [outgoing_eq found]
          refine foldlM_congr (fun c leaving known => ?_) known
          have here : c.output.node = id := (outgoing_sound (outgoing_eq found ▸ leaving)).2
          simp only [pass, here, found]
        rw [List.filterMap_cons, found]
        simp only [List.foldlM_cons, same, ih]
  exact fold _

theorem held_atSource {order : List String} (listed : sourceId ∈ order) (id : String) :
    held (atSource order) id = if id = sourceId then [[]] else [] := by
  unfold held atSource
  rw [Entries.get?_table]
  by_cases source : id = sourceId
  · subst source
    simp [listed]
  · simp only [beq_false_of_ne source, Bool.false_eq_true, if_false, source]
    split <;> rfl

section Pass

variable {r : Registry} {g : Graph} {known next : Entries String (List PacketPath)} {c : Connection}

theorem pass_eq (sound : g.Sound r) (member : c ∈ g.connections) (known : Entries String (List PacketPath)) :
    g.pass known c = (g.condition c).map fun condition? => Entries.set c.input.node
      (held known c.input.node ++ (held known c.output.node).map (· ++ addition c condition?)) known := by
  obtain ⟨n, found⟩ := node?_isSome (sound.connections c member).output_mem
  have id := (node?_mem found).2
  simp only [pass, found, handOn, stepOf, condition, addition, held, id]
  cases n.type.predicate n.view c.output.port <;> rfl

theorem pass_ok (sound : g.Sound r) (member : c ∈ g.connections) (passed : g.pass known c = .ok next) :
    ∃ condition?, g.condition c = .ok condition? ∧ ∀ id, held next id =
      if id = c.input.node then held known id ++ (held known c.output.node).map (· ++ addition c condition?)
      else held known id := by
  rw [pass_eq sound member] at passed
  obtain ⟨condition?, stated, rfl⟩ := map_ok passed
  refine ⟨condition?, stated, fun id => ?_⟩
  conv_lhs => rw [held, Entries.get?_set]
  by_cases same : id = c.input.node
  · rw [if_pos same, if_pos same, same]
    rfl
  · rw [if_neg same, if_neg same]
    rfl

end Pass

/-- At every node there is one description for every way to it along the connections that were passed. -/
def Collected (g : Graph) (done : List Connection) (known : Entries String (List PacketPath)) : Prop :=
  ∀ id, ∃ ways : List (List Connection), ways.Nodup ∧ (∀ way, way ∈ ways ↔ Trail done id way) ∧
    List.Forall₂ (fun way path => g.description way = .ok path) ways (held known id)

theorem Collected.start (g : Graph) {order : List String} (listed : sourceId ∈ order) :
    g.Collected [] (atSource order) := by
  have only : ∀ {id way}, Trail [] id way ↔ id = sourceId ∧ way = [] := by
    intro id way
    rw [Trail.iff]
    simp
  intro id
  rw [held_atSource listed]
  by_cases source : id = sourceId
  · refine ⟨[[]], List.nodup_singleton _, fun way => by simp [only, source], ?_⟩
    rw [if_pos source]
    exact .cons rfl .nil
  · refine ⟨[], List.nodup_nil, fun way => by simp [only, source], ?_⟩
    rw [if_neg source]
    exact .nil

section Collected

variable {r : Registry} {g : Graph} {done rest : List Connection} {known next : Entries String (List PacketPath)}
  {c : Connection}

theorem Collected.step (sound : g.Sound r) (collected : g.Collected done known) (member : c ∈ g.connections)
    (fresh : c ∉ done) (apart : ∀ d ∈ done ++ [c], d.output.node ≠ c.input.node)
    (passed : g.pass known c = .ok next) : g.Collected (done ++ [c]) next := by
  obtain ⟨condition?, stated, held_next⟩ := pass_ok sound member passed
  intro id
  obtain ⟨ways, distinct, exact, described⟩ := collected id
  rw [held_next]
  by_cases here : id = c.input.node
  · obtain ⟨before, distinctBefore, exactBefore, describedBefore⟩ := collected c.output.node
    refine ⟨ways ++ before.map (· ++ [c]), ?_, fun way => ?_, ?_⟩
    · refine distinct.append (distinctBefore.map fun _ _ same => List.append_cancel_right same) ?_
      -- No way that was there ends with the connection, which is new.
      intro way old new
      obtain ⟨start, -, rfl⟩ := List.mem_map.mp new
      exact fresh (((exact _).mp old).subset (List.mem_append_right _ List.mem_cons_self))
    · rw [List.mem_append, exact, List.mem_map, Trail.append_iff apart]
      simp only [here, true_and, exactBefore, and_comm, eq_comm]
    · rw [if_pos here]
      refine List.rel_append described ?_
      rw [List.forall₂_map_left_iff, List.forall₂_map_right_iff]
      exact describedBefore.imp fun _ _ same => description_append same stated
  · refine ⟨ways, distinct, fun way => ?_, ?_⟩
    · rw [exact, Trail.append_iff apart]
      simp only [here, false_and, or_false]
    · rwa [if_neg here]

theorem Collected.run (sound : g.Sound r) (collected : g.Collected done known) (members : rest ⊆ g.connections)
    (distinct : (done ++ rest).Nodup) (ahead : (done ++ rest).Pairwise fun d c => d.output.node ≠ c.input.node)
    (passed : rest.foldlM g.pass known = .ok next) : g.Collected (done ++ rest) next := by
  induction rest generalizing done known with
  | nil =>
    cases passed
    rwa [List.append_nil]
  | cons c rest ih =>
    rw [List.foldlM_cons] at passed
    obtain ⟨handed, first, later⟩ := bind_ok passed
    obtain ⟨member, members⟩ := List.cons_subset.mp members
    have fresh : c ∉ done := fun old => (List.nodup_append.mp distinct).2.2 c old c List.mem_cons_self rfl
    -- The connection enters a node that none of those passed before leaves, by the order they are passed in.
    have apart : ∀ d ∈ done ++ [c], d.output.node ≠ c.input.node := by
      intro d earlier
      rcases List.mem_append.mp earlier with old | new
      · exact (List.pairwise_append.mp ahead).2.2 d old c List.mem_cons_self
      · rw [List.mem_singleton.mp new]
        exact sound.follows_ne ⟨c, member, rfl, rfl⟩
    rw [List.append_cons] at distinct ahead ⊢
    exact ih (collected.step sound member fresh apart first) members distinct ahead later

theorem foldlM_pass_error (sound : g.Sound r) (members : rest ⊆ g.connections) :
    (∃ e, rest.foldlM g.pass known = .error e) ↔ ∃ c ∈ rest, ∃ e, g.condition c = .error e := by
  induction rest generalizing known with
  | nil => simp [Pure.pure, Except.pure]
  | cons c rest ih =>
    obtain ⟨member, members⟩ := List.cons_subset.mp members
    rw [List.foldlM_cons, pass_eq sound member]
    cases stated : g.condition c with
    | error e => simp [Except.map, Bind.bind, Except.bind, stated]
    | ok condition? => simpa [Except.map, Bind.bind, Except.bind, stated] using ih members

end Collected

namespace ExportOrder

variable {r : Registry} {g : Graph} {order : List String}

theorem sent_perm (exported : g.ExportOrder order) (sound : g.Sound r) (differ : g.PortsDiffer) :
    (order.flatMap g.outgoing).Perm g.connections := by
  have all : (g.connections.filter fun c => order.contains c.output.node) = g.connections := by
    refine List.filter_eq_self.mpr fun c member => ?_
    exact List.contains_iff_mem.mpr (exported.nodes.mem_iff.mpr (sound.connections c member).output_mem)
  have sent := sound.flatMap_outgoing differ exported.distinct
  rwa [all] at sent

/-- In the order of export, no connection enters a node that an earlier one, or the connection itself, leaves. -/
theorem sent_ahead (exported : g.ExportOrder order) :
    (order.flatMap g.outgoing).Pairwise fun d c => d.output.node ≠ c.input.node := by
  have ne : ∀ {a b d c}, d ∈ g.outgoing a → c ∈ g.outgoing b → order.idxOf a ≤ order.idxOf b →
      d.output.node ≠ c.input.node := by
    intro a b d c left right early same
    obtain ⟨member, rfl⟩ := outgoing_sound right
    obtain ⟨-, rfl⟩ := outgoing_sound left
    have below := exported.senders c member
    rw [← same] at below
    omega
  have increasing : order.Pairwise fun a b => order.idxOf a < order.idxOf b := by
    refine List.pairwise_iff_getElem.mpr fun i j left right below => ?_
    rwa [exported.distinct.idxOf_getElem, exported.distinct.idxOf_getElem]
  refine List.pairwise_flatMap.mpr ⟨fun id _ => ?_, increasing.imp fun {a b} below d left c right => ?_⟩
  · exact List.pairwise_of_forall_mem_list fun d left c right => ne left right (Nat.le_refl _)
  · exact ne left right (Nat.le_of_lt below)

end ExportOrder

def isTerminal (g : Graph) (id : String) : Bool := (g.node? id).any (·.type.isTerminal)

theorem isTerminal_iff {g : Graph} {id : String} :
    g.isTerminal id = true ↔ ∃ n, g.node? id = some n ∧ n.type.outputs = [] := by
  simp only [isTerminal, Option.any_eq_true, NodeType.isTerminal, List.isEmpty_iff]

theorem terminals_eq (g : Graph) (order : List String) (known : Entries String (List PacketPath)) :
    ((order.filterMap g.node?).filterMap fun n =>
        if n.type.isTerminal then some (n.id, (known.get? n.id).getD []) else none) =
      (order.filter g.isTerminal).map fun id => (id, held known id) := by
  induction order with
  | nil => rfl
  | cons id rest ih =>
    rw [List.filter_cons, isTerminal]
    cases found : g.node? id with
    | none =>
      rw [List.filterMap_cons, found]
      exact ih
    | some n =>
      have same := (node?_mem found).2
      rw [List.filterMap_cons, found]
      cases terminal : n.type.isTerminal with
      | false => simpa [terminal] using ih
      | true => simpa [terminal, same, held] using ih

section PacketPaths

variable {r : Registry} {g : Graph}

theorem packetPaths_error_iff (built : r.Built) (wf : g.WellFormed r) (differ : g.PortsDiffer) :
    (∃ e, g.packetPaths = .error e) ↔
      ∃ c ∈ g.normalize.graph.connections, ∃ e, g.normalize.graph.condition c = .error e := by
  have normal := normalize_well_formed wf
  obtain ⟨order, ordered⟩ := normalize_ordered built wf differ g.normalize.graph.coloring
  have exported := order_spec built normal differ.normalize ordered
  have sent := exported.sent_perm normal.toSound differ.normalize
  have failing : (∃ e, g.normalize.graph.reaching order = .error e) ↔
      ∃ c ∈ g.normalize.graph.connections, ∃ e, g.normalize.graph.condition c = .error e := by
    rw [reaching_eq, foldlM_pass_error normal.toSound sent.subset]
    simp only [sent.mem_iff]
  rw [← failing, packetPaths, ordered]
  cases collected : g.normalize.graph.reaching order with
  | error e => simp [collected, Bind.bind, Except.bind, Except.mapError]
  | ok known => simp [collected, Bind.bind, Except.bind, Except.mapError, Pure.pure, Except.pure]

theorem packetPaths_ok {paths : Entries String (List PacketPath)} (collected : g.packetPaths = .ok paths) :
    ∃ order known, g.normalize.graph.order g.normalize.graph.coloring = .ok order ∧
      g.normalize.graph.reaching order = .ok known ∧
      paths = (order.filter g.normalize.graph.isTerminal).map fun id => (id, held known id) := by
  obtain ⟨order, ordered, collected⟩ := bind_ok collected
  obtain ⟨known, reached, collected⟩ := bind_ok collected
  cases collected
  exact ⟨order, known, ordered, mapError_ok.mp reached, terminals_eq _ _ _⟩

theorem reaching_collected (wf : g.WellFormed r) (differ : g.PortsDiffer) {order : List String}
    (exported : g.ExportOrder order) {known : Entries String (List PacketPath)} (reached : g.reaching order = .ok known)
    (id : String) :
    ∃ ways : List (List Connection), ways.Nodup ∧ (∀ way, way ∈ ways ↔ Trail g.connections id way) ∧
      List.Forall₂ (fun way path => g.description way = .ok path) ways (held known id) := by
  have sent := exported.sent_perm wf.toSound differ
  have source : sourceId ∈ order := exported.nodes.mem_iff.mpr wf.source
  rw [reaching_eq] at reached
  obtain ⟨ways, distinct, exact, described⟩ := (Collected.start g source).run wf.toSound sent.subset
    (sent.nodup_iff.mpr wf.toSound.connections_nodup) exported.sent_ahead reached id
  refine ⟨ways, distinct, fun way => ?_, described⟩
  rw [exact, List.nil_append]
  exact ⟨fun trail => trail.mono sent.subset, fun trail => trail.mono sent.symm.subset⟩

end PacketPaths

/-- The collected paths are those of the terminal nodes of the normalized graph, in the order of export: at each,
    one description for every way from the source. They are missing only when a condition is. -/
theorem collected_paths {r : Registry} {g : Graph} (authored : Authored r g) (differ : g.PortsDiffer) :
    ((∃ e, g.packetPaths = .error e) ↔
        ∃ c ∈ g.normalize.graph.connections, ∃ e, g.normalize.graph.condition c = .error e) ∧
      ∀ paths, g.packetPaths = .ok paths →
        (∃ order, g.normalize.graph.order g.normalize.graph.coloring = .ok order ∧
          g.normalize.graph.ExportOrder order ∧ paths.map (·.1) = order.filter g.normalize.graph.isTerminal) ∧
        (∀ id, id ∈ paths.map (·.1) ↔ ∃ n, g.normalize.graph.node? id = some n ∧ n.type.outputs = []) ∧
        localhostId ∈ paths.map (·.1) ∧
        ∀ id list, (id, list) ∈ paths → ∃ ways : List (List Connection), ways.Nodup ∧
          (∀ way, way ∈ ways ↔ Trail g.normalize.graph.connections id way) ∧
          List.Forall₂ (fun way path => g.normalize.graph.description way = .ok path) ways list := by
  obtain ⟨built, wf⟩ := authored.well_formed
  have normal := normalize_well_formed wf
  refine ⟨packetPaths_error_iff built wf differ, fun paths collected => ?_⟩
  obtain ⟨order, known, ordered, reached, rfl⟩ := packetPaths_ok collected
  have exported := order_spec built normal differ.normalize ordered
  have keys : ((order.filter g.normalize.graph.isTerminal).map fun id => (id, held known id)).map (·.1) =
      order.filter g.normalize.graph.isTerminal := by
    rw [List.map_map]
    exact List.map_id _
  have terminal : ∀ id, id ∈ order.filter g.normalize.graph.isTerminal ↔
      ∃ n, g.normalize.graph.node? id = some n ∧ n.type.outputs = [] := by
    intro id
    rw [List.mem_filter, isTerminal_iff, and_iff_right_of_imp]
    rintro ⟨n, found, -⟩
    exact exported.nodes.mem_iff.mpr (mem_nodeIds.mpr ⟨n, node?_mem found⟩)
  rw [keys]
  refine ⟨⟨order, ordered, exported, rfl⟩, terminal, ?_, ?_⟩
  · obtain ⟨n, found, type⟩ := normal.localhost_node built
    exact (terminal _).mpr ⟨n, found, by rw [type]; rfl⟩
  · intro id list member
    obtain ⟨other, -, same⟩ := List.mem_map.mp member
    cases same
    exact reaching_collected normal differ.normalize exported reached id

def diamond : List Edit :=
  let add (id name : String) : Edit :=
    .add "core:interface_filter" (some id) [("interface", .text name)] (.list [.int 0, .int 0])
  let link (a port b : String) : Edit := .connect ⟨⟨a, port⟩, ⟨b, "in"⟩⟩
  [add "a" "eth0", add "b" "eth1", link sourceId "out" "a", link "a" "match" "b", link "a" "non-match" "b",
    link "b" "match" localhostId]

theorem diamond_paths :
    ∃ paths list, (Graph.new.edits .builtin diamond).packetPaths = .ok paths ∧ (localhostId, list) ∈ paths ∧
      list.length = 2 := by
  let g := Graph.new.edits .builtin diamond
  have authored : Authored .builtin g := Authored.edits (.new .builtin) diamond
  have differ := authored.well_formed.2.portsDiffer Registry.builtin_portsDiffer
  obtain ⟨failing, spec⟩ := collected_paths authored differ
  let entry : Connection := ⟨⟨sourceId, "out"⟩, ⟨"a", "in"⟩⟩
  let left : Connection := ⟨⟨"a", "match"⟩, ⟨"b", "in"⟩⟩
  let right : Connection := ⟨⟨"a", "non-match"⟩, ⟨"b", "in"⟩⟩
  let exit : Connection := ⟨⟨"b", "match"⟩, ⟨localhostId, "in"⟩⟩
  have graph : g.normalize.graph = g := congrArg Normalization.graph
    (normalize_eq (by decide +kernel) ((CycleSearch.run_eq 10 (by decide +kernel)).trans (by decide +kernel)))
  have connections : g.connections = [entry, left, right, exit] := by rfl
  rw [graph, connections] at failing spec
  have given : ∃ paths, g.packetPaths = .ok paths := by
    cases collected : g.packetPaths with
    | ok paths => exact ⟨paths, rfl⟩
    | error e =>
      obtain ⟨c, member, e, missing⟩ := failing.mp ⟨e, collected⟩
      simp only [List.mem_cons, List.not_mem_nil, or_false] at member
      rcases member with rfl | rfl | rfl | rfl <;> cases missing
  obtain ⟨paths, collected⟩ := given
  obtain ⟨-, -, listed, exact⟩ := spec paths collected
  obtain ⟨⟨_, list⟩, member, rfl⟩ := List.mem_map.mp listed
  obtain ⟨ways, distinct, trails, described⟩ := exact _ list member
  have two : ways.Perm [[entry, left, exit], [entry, right, exit]] := by
    have step : ∀ {id way}, Trail [entry, left, right, exit] id way ↔ id = sourceId ∧ way = [] ∨
        ("a" = id ∧ ∃ before, Trail [entry, left, right, exit] sourceId before ∧ before ++ [entry] = way) ∨
        ("b" = id ∧ ∃ before, Trail [entry, left, right, exit] "a" before ∧ before ++ [left] = way) ∨
        ("b" = id ∧ ∃ before, Trail [entry, left, right, exit] "a" before ∧ before ++ [right] = way) ∨
        (localhostId = id ∧ ∃ before, Trail [entry, left, right, exit] "b" before ∧ before ++ [exit] = way) := by
      intro id way
      rw [Trail.iff]
      simp only [List.mem_cons, List.not_mem_nil, or_false, exists_eq_or_imp, exists_eq_left]
      rfl
    have a : "a" ≠ sourceId := by decide
    have b : "b" ≠ sourceId := by decide
    have last : localhostId ≠ sourceId ∧ localhostId ≠ "a" ∧ localhostId ≠ "b" := by decide
    have toSource : ∀ {way}, Trail [entry, left, right, exit] sourceId way ↔ way = [] := by
      intro way
      rw [step]
      simp [a, b, last]
    have toA : ∀ {way}, Trail [entry, left, right, exit] "a" way ↔ way = [entry] := by
      intro way
      rw [step]
      simp [a, last, toSource, eq_comm]
    have toB : ∀ {way}, Trail [entry, left, right, exit] "b" way ↔ way = [entry, left] ∨ way = [entry, right] := by
      intro way
      rw [step]
      simp [b, last, toA, eq_comm]
    refine (List.perm_ext_iff_of_nodup distinct (by decide)).mpr fun way => ?_
    rw [trails, step]
    simp [last, last.2.1.symm, last.2.2.symm, toB, or_and_right, exists_or, eq_comm]
  exact ⟨paths, list, collected, member, described.length_eq ▸ two.length_eq⟩

end Graph
end FilterGraph
