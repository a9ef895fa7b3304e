import FilterGraph.Proofs.Graph.Reachable
import FilterGraph.Proofs.Graph.WellFormed
import FilterGraph.Proofs.Text.Numeral

namespace FilterGraph.Graph

theorem generatedId_injective {m n : Nat} (same : generatedId m = generatedId n) : m = n := by
  apply Text.decimalPadded_injective 4
  have texts := congrArg String.toList same
  simp only [generatedId, String.toList_append] at texts
  exact String.toList_inj.mp (List.append_cancel_left texts)

theorem freeNumber_reaches (g : Graph) (tries n k : Nat) (start : n ≤ k) (stop : k < n + tries)
    (free : g.contains (generatedId k) = false) :
    g.contains (generatedId (g.freeNumber tries n)) = false := by
  induction tries generalizing n with
  | zero => omega
  | succ tries ih =>
    simp only [freeNumber]
    split
    · rename_i taken
      have other : n ≠ k := by
        intro same
        subst same
        rw [free] at taken
        cases taken
      exact ih (n + 1) (by omega) (by omega)
    · rename_i here
      exact Bool.eq_false_iff.mpr here

theorem some_number_free (g : Graph) (n : Nat) :
    ∃ k, n ≤ k ∧ k < n + (g.nodes.length + 1) ∧ g.contains (generatedId k) = false := by
  by_contra none
  push Not at none
  let tried := (List.range' n (g.nodes.length + 1)).map generatedId
  have distinct : tried.Nodup :=
    List.Nodup.map (fun _ _ same => generatedId_injective same) List.nodup_range'
  have taken : tried ⊆ g.nodeIds := by
    intro id member
    obtain ⟨k, inRange, rfl⟩ := List.mem_map.mp member
    obtain ⟨start, stop⟩ := List.mem_range'_1.mp inRange
    exact contains_iff.mp (Bool.not_eq_false _ ▸ none k start stop)
  have count := List.Nodup.length_le_of_subset distinct taken
  simp only [tried, nodeIds, List.length_map, List.length_range'] at count
  omega

theorem freeNumber_free (g : Graph) (n : Nat) :
    g.contains (generatedId (g.freeNumber (g.nodes.length + 1) n)) = false := by
  obtain ⟨k, start, stop, free⟩ := g.some_number_free n
  exact g.freeNumber_reaches _ n k start stop free

theorem chooseId_ok {g next : Graph} {id? : Option String} {id : String}
    (chosen : g.chooseId id? = .ok (next, id)) :
    g.contains id = false ∧ ∃ k, next = { g with nextId := k } := by
  cases id? with
  | none =>
    cases chosen
    exact ⟨g.freeNumber_free g.nextId, _, rfl⟩
  | some given =>
    simp only [chooseId] at chosen
    split at chosen
    · cases chosen
    · split at chosen
      · cases chosen
      · rename_i free _
        cases chosen
        exact ⟨Bool.eq_false_iff.mpr free, _, rfl⟩

theorem newNode_ok {r : Registry} {typeId id : String} {params : Params} {position : Value} {n : Node}
    (made : newNode r typeId id params position = .ok n) : n.id = id ∧ r.get? typeId = some n.type ∧ n.params = params := by
  unfold newNode at made
  cases found : r.get? typeId with
  | none => rw [found] at made; cases made
  | some type =>
    cases placed : Position.ofValue position with
    | error e => rw [found, placed] at made; cases made
    | ok p =>
      rw [found, placed] at made
      cases made
      exact ⟨rfl, rfl, rfl⟩

theorem add_cases (g : Graph) (r : Registry) (typeId : String) (id? : Option String) (params : Params)
    (position : Value) :
    (∃ e k, g.add r typeId id? params position = ({ g with nextId := k }, .error e)) ∨
      ∃ n k, g.add r typeId id? params position = (({ g with nextId := k } : Graph).insert n, .ok n.id) ∧
        r.get? typeId = some n.type ∧ isPermanentType typeId = false ∧ n.id ∉ g.nodeIds ∧ n.params = params ∧
        ∃ next, g.chooseId id? = .ok (next, n.id) := by
  unfold add
  split
  · exact Or.inl ⟨_, g.nextId, rfl⟩
  · rename_i free
    cases chosen : g.chooseId id? with
    | error e => exact Or.inl ⟨e, g.nextId, rfl⟩
    | ok choice =>
      obtain ⟨next, id⟩ := choice
      obtain ⟨fresh, k, rfl⟩ := chooseId_ok chosen
      cases made : newNode r typeId id params position with
      | error e => exact Or.inl ⟨e, k, by simp only [made]⟩
      | ok n =>
        obtain ⟨rfl, known, given⟩ := newNode_ok made
        refine Or.inr ⟨n, k, by simp only [made], known, Bool.eq_false_iff.mpr free, ?_, given, _, rfl⟩
        intro member
        rw [contains_iff.mpr member] at fresh
        cases fresh

theorem remove_ok {g next : Graph} {id : String} (removed : g.remove id = .ok next) :
    isPermanentId id = false ∧ id ∈ g.nodeIds ∧ next = g.without id := by
  unfold remove requireNode at removed
  cases found : g.node? id with
  | none => rw [found] at removed; cases removed
  | some n =>
    rw [found] at removed
    simp only [Bind.bind, Except.bind] at removed
    split at removed
    · cases removed
    · rename_i free
      cases removed
      exact ⟨Bool.eq_false_iff.mpr free, mem_nodeIds.mpr ⟨n, node?_mem found⟩, rfl⟩

theorem requirePort_ok {g : Graph} {ref : PortRef} {p : Port} :
    g.requirePort ref = .ok p ↔ g.port? ref = some p := by
  unfold requirePort requireNode port?
  cases g.node? ref.node with
  | none => simp [Bind.bind, Except.bind]
  | some n =>
    simp only [Bind.bind, Except.bind, Option.bind_some]
    cases n.type.port? ref.port with
    | none => simp [throw, throwThe, MonadExceptOf.throw]
    | some q => simp [Pure.pure, Except.pure]

theorem obstacle?_eq_none {g : Graph} {c : Connection} {output input : Port} :
    g.obstacle? c output input = none ↔
      c.output.node ≠ c.input.node ∧ output.kind = .output ∧ input.kind = .input ∧
        output.family.compatible input.family = true ∧ output.flow.compatible input.flow = true ∧
        g.target? c.output = none := by
  unfold obstacle?
  by_cases loop : c.output.node = c.input.node
  · simp [loop]
  · by_cases orientation : output.kind = .output ∧ input.kind = .input
    · by_cases families : output.family.compatible input.family = true
      · by_cases flows : output.flow.compatible input.flow = true
        · simp [loop, orientation, families, flows]
        · simp [loop, orientation, families, flows]
      · simp [loop, orientation, families]
    · have mixed : (output.kind != .output || input.kind != .input) = true := by
        simp only [Bool.or_eq_true, bne_iff_ne, ne_eq]
        tauto
      have apart : ¬ (c.output.node == c.input.node) = true := by simpa using loop
      rw [if_neg apart, if_pos mixed]
      simp only [reduceCtorEq, false_iff]
      tauto

theorem connect_ok {g next : Graph} {c : Connection} :
    g.connect c = .ok next ↔
      g.Joins c ∧ g.target? c.output = none ∧ next = { g with connections := g.connections ++ [c] } := by
  have outputs (p : Port) := @requirePort_ok g c.output p
  have inputs (p : Port) := @requirePort_ok g c.input p
  unfold connect Joins
  cases output : g.requirePort c.output with
  | error e =>
    rw [output] at outputs
    simp only [reduceCtorEq, false_iff] at outputs
    simp [Bind.bind, Except.bind, outputs]
  | ok p =>
    cases input : g.requirePort c.input with
    | error e =>
      rw [input] at inputs
      simp only [reduceCtorEq, false_iff] at inputs
      simp [Bind.bind, Except.bind, inputs]
    | ok q =>
      have left := (outputs p).mp output
      have right := (inputs q).mp input
      simp only [Bind.bind, Except.bind, left, right, Option.some.injEq, exists_and_left, exists_eq_left']
      cases obstacle : g.obstacle? c p q with
      | none =>
        have clear := obstacle?_eq_none.mp obstacle
        simp [Pure.pure, Except.pure, clear, eq_comm]
      | some e =>
        have blocked := mt obstacle?_eq_none.mpr (by rw [obstacle]; simp)
        simp only [throw, throwThe, MonadExceptOf.throw, reduceCtorEq, false_iff]
        tauto

theorem disconnect_graph (g : Graph) (output : PortRef) :
    (g.disconnect output).1 = g.unplugged output ∨ (g.disconnect output).1 = g := by
  unfold disconnect
  cases g.target? output with
  | none => exact Or.inr rfl
  | some input => exact Or.inl rfl

theorem beginDrag_ok {g next : Graph} {ref : PortRef} {d : Drag} (begun : g.beginDrag ref = .ok (next, d)) :
    next = g.unplugged ref ∨ next = g := by
  unfold beginDrag at begun
  cases port : g.requirePort ref with
  | error e => rw [port] at begun; cases begun
  | ok p =>
    rw [port] at begun
    cases kind : p.kind <;> simp only [Bind.bind, Except.bind, kind] at begun <;> cases begun
    · exact Or.inr rfl
    · exact g.disconnect_graph ref

theorem endDrag_ok {g next : Graph} {d : Drag} {ref : PortRef} {c? : Option Connection}
    (ended : g.endDrag d ref = .ok (next, c?)) :
    (∃ c, g.connect c = .ok next) ∨ next = g := by
  unfold endDrag at ended
  cases kind : d.kind with
  | output =>
    simp only [kind, Bind.bind, Except.bind] at ended
    cases made : g.connect ⟨d.origin, ref⟩ with
    | error e => rw [made] at ended; cases ended
    | ok h =>
      rw [made] at ended
      cases ended
      exact Or.inl ⟨_, made⟩
  | input =>
    simp only [kind, Bind.bind, Except.bind] at ended
    cases port : g.requirePort ref with
    | error e => rw [port] at ended; cases ended
    | ok p =>
      simp only [port] at ended
      split at ended
      · cases ended
        exact Or.inr rfl
      · cases made : g.connect ⟨ref, d.origin⟩ with
        | error e => rw [made] at ended; cases ended
        | ok h =>
          rw [made] at ended
          cases ended
          exact Or.inl ⟨_, made⟩

/-- The graphs one edit can lead to. -/
inductive Change (r : Registry) (g : Graph) : Graph → Prop
  | kept (k : Nat) : Change r g { g with nextId := k }
  | inserted (n : Node) (k : Nat) (known : r.get? n.type.typeId = some n.type)
      (free : isPermanentType n.type.typeId = false) (fresh : n.id ∉ g.nodeIds) :
      Change r g (({ g with nextId := k } : Graph).insert n)
  | removed (id : String) (free : isPermanentId id = false) : Change r g (g.without id)
  | plugged (c : Connection) (joins : g.Joins c) (free : g.target? c.output = none) :
      Change r g { g with connections := g.connections ++ [c] }
  | unplugged (output : PortRef) : Change r g (g.unplugged output)

theorem Change.of_connect {r : Registry} {g next : Graph} {c : Connection}
    (made : g.connect c = .ok next) : Change r g next := by
  obtain ⟨joins, free, rfl⟩ := connect_ok.mp made
  exact .plugged c joins free

theorem Change.of_cut {r : Registry} {g next : Graph} {output : PortRef}
    (cut : next = g.unplugged output ∨ next = g) : Change r g next := by
  rcases cut with rfl | rfl
  · exact .unplugged output
  · exact .kept next.nextId

theorem settled_change {α : Type} {r : Registry} {g : Graph} {outcome : Except EditError α}
    (next : α → Graph × Edit.Answer) (changes : ∀ a, outcome = .ok a → Change r g (next a).1) :
    Change r g (g.settled (outcome.map next)).1 := by
  cases outcome with
  | error e => exact .kept g.nextId
  | ok a => exact changes a rfl

theorem edit_change (r : Registry) (g : Graph) (e : Edit) : Change r g (g.edit r e).1 := by
  cases e with
  | add typeId id? params position =>
    rcases g.add_cases r typeId id? params position with ⟨e, k, refused⟩ | ⟨n, k, added, known, free, fresh, -⟩
    · simp only [edit, refused]
      exact .kept k
    · simp only [edit, added]
      have own := Registry.get?_typeId known
      exact .inserted n k (own ▸ known) (own ▸ free) fresh
  | remove id =>
    apply settled_change
    intro next removed
    obtain ⟨free, -, rfl⟩ := remove_ok removed
    exact .removed id free
  | connect c =>
    apply settled_change
    intro next made
    exact .of_connect made
  | disconnect output => exact .of_cut (g.disconnect_graph output)
  | beginDrag p =>
    apply settled_change
    intro (next, d) begun
    exact .of_cut (beginDrag_ok begun)
  | endDrag d p =>
    apply settled_change
    intro (next, c?) ended
    rcases endDrag_ok ended with ⟨c, made⟩ | rfl
    · exact .of_connect made
    · exact .kept next.nextId

end FilterGraph.Graph
