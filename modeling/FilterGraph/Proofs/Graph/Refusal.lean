import FilterGraph.Proofs.Graph.Authored

namespace FilterGraph

def Edit.Generates : Edit → Prop
  | .add typeId none _ _ => isPermanentType typeId = false
  | _ => False

namespace Graph

def answers (r : Registry) (g : Graph) : List Edit → List (Except EditError Edit.Answer)
  | [] => []
  | e :: rest => (g.edit r e).2 :: answers r (g.edit r e).1 rest

def renumbered (g : Graph) (k : Nat) : Graph := { g with nextId := k }

/-- Graphs that differ at most in the number the next generated id starts from. -/
structure SameContents (g h : Graph) : Prop where
  nodes : g.nodes = h.nodes
  connections : g.connections = h.connections
  extensions : g.extensions = h.extensions
  metadata : g.metadata = h.metadata

section Renumbered

variable {r : Registry} {g : Graph} (k : Nat)

theorem renumbered_sameContents (g : Graph) : (g.renumbered k).SameContents g := ⟨rfl, rfl, rfl, rfl⟩

theorem add_renumbered {typeId : String} {id? : Option String} (params : Params) (position : Value)
    (plain : ¬ (Edit.add typeId id? params position).Generates) :
    (g.renumbered k).add r typeId id? params position =
      ((g.add r typeId id? params position).1.renumbered k, (g.add r typeId id? params position).2) := by
  unfold add
  cases permanent : isPermanentType typeId with
  | true => rfl
  | false =>
    cases id? with
    | none => exact absurd permanent plain
    | some id =>
      have taken : (g.renumbered k).contains id = g.contains id := rfl
      simp only [chooseId, taken]
      cases g.contains id with
      | true => rfl
      | false =>
        cases isGivenId id with
        | false => rfl
        | true =>
          simp only [Bool.false_eq_true, Bool.not_true, if_false]
          cases newNode r typeId id params position <;> rfl

theorem remove_renumbered (id : String) : (g.renumbered k).remove id = (g.remove id).map (·.renumbered k) := by
  have node : (g.renumbered k).requireNode id = g.requireNode id := rfl
  rw [remove, remove, node]
  cases g.requireNode id with
  | error e => rfl
  | ok n => cases isPermanentId id <;> rfl

theorem connect_renumbered (c : Connection) : (g.renumbered k).connect c = (g.connect c).map (·.renumbered k) := by
  have port (ref : PortRef) : (g.renumbered k).requirePort ref = g.requirePort ref := rfl
  have obstacle (p q : Port) : (g.renumbered k).obstacle? c p q = g.obstacle? c p q := rfl
  simp only [connect, port, obstacle]
  cases g.requirePort c.output with
  | error e => rfl
  | ok p =>
    cases g.requirePort c.input with
    | error e => rfl
    | ok q =>
      simp only [Bind.bind, Except.bind]
      cases g.obstacle? c p q <;> rfl

theorem disconnect_renumbered (output : PortRef) :
    (g.renumbered k).disconnect output = ((g.disconnect output).1.renumbered k, (g.disconnect output).2) := by
  have target : (g.renumbered k).target? output = g.target? output := rfl
  rw [disconnect, disconnect, target]
  cases g.target? output <;> rfl

theorem beginDrag_renumbered (ref : PortRef) :
    (g.renumbered k).beginDrag ref = (g.beginDrag ref).map fun (next, d) => (next.renumbered k, d) := by
  have port : (g.renumbered k).requirePort ref = g.requirePort ref := rfl
  rw [beginDrag, beginDrag, port, disconnect_renumbered]
  cases g.requirePort ref with
  | error e => rfl
  | ok p => 
    simp only [Bind.bind, Except.bind]
    cases p.kind <;> rfl

theorem endDrag_renumbered (d : Drag) (ref : PortRef) :
    (g.renumbered k).endDrag d ref = (g.endDrag d ref).map fun (next, c?) => (next.renumbered k, c?) := by
  have port : (g.renumbered k).requirePort ref = g.requirePort ref := rfl
  have target : (g.renumbered k).target? ref = g.target? ref := rfl
  simp only [endDrag, port, target, connect_renumbered]
  cases d.kind with
  | output => cases g.connect ⟨d.origin, ref⟩ <;> rfl
  | input =>
    cases g.requirePort ref with
    | error e => rfl
    | ok p =>
      simp only [Bind.bind, Except.bind]
      split
      · rfl
      · cases g.connect ⟨ref, d.origin⟩ <;> rfl

theorem settled_renumbered {outcome : Except EditError (Graph × Edit.Answer)} :
    settled (g.renumbered k) (outcome.map fun (next, answer) => (next.renumbered k, answer)) =
      ((g.settled outcome).1.renumbered k, (g.settled outcome).2) := by
  cases outcome <;> rfl

/-- An edit that makes no id does not look at the counter and does not change it. -/
theorem edit_renumbered {e : Edit} (plain : ¬ e.Generates) :
    (g.renumbered k).edit r e = ((g.edit r e).1.renumbered k, (g.edit r e).2) := by
  cases e with
  | add typeId id? params position => rw [edit, edit, add_renumbered k params position plain]
  | remove id =>
    rw [edit, edit, remove_renumbered, ← settled_renumbered]
    cases g.remove id <;> rfl
  | connect c => 
    rw [edit, edit, connect_renumbered, ← settled_renumbered]
    cases g.connect c <;> rfl
  | disconnect output => 
    rw [edit, edit, disconnect_renumbered]
  | beginDrag ref => 
    rw [edit, edit, beginDrag_renumbered, ← settled_renumbered]
    cases g.beginDrag ref <;> rfl
  | endDrag d ref =>
    rw [edit, edit, endDrag_renumbered, ← settled_renumbered]
    cases g.endDrag d ref <;> rfl

theorem run_renumbered {later : List Edit} (plain : ∀ e ∈ later, ¬ e.Generates) :
    (g.renumbered k).answers r later = g.answers r later ∧
      (g.renumbered k).edits r later = (g.edits r later).renumbered k := by
  induction later generalizing g with
  | nil => exact ⟨rfl, rfl⟩
  | cons e rest ih =>
    obtain ⟨first, others⟩ := List.forall_mem_cons.mp plain
    obtain ⟨answered, reached⟩ := ih (g := (g.edit r e).1) others
    simp only [answers, edits, List.foldl_cons, edit_renumbered k first] at answered reached ⊢
    exact ⟨congrArg _ answered, reached⟩

end Renumbered

section Refused

variable {r : Registry} {g : Graph}

theorem freeNumber_ge (g : Graph) (tries n : Nat) : n ≤ g.freeNumber tries n := by
  induction tries generalizing n with
  | zero => exact Nat.le_refl n
  | succ tries ih =>
    rw [freeNumber]
    split
    · exact Nat.le_of_succ_le (ih (n + 1))
    · exact Nat.le_refl n

def nextFree (g : Graph) : Nat := g.freeNumber (g.nodes.length + 1) g.nextId

theorem settled_refused {outcome : Except EditError (Graph × Edit.Answer)} {error : EditError}
    (refused : (g.settled outcome).2 = .error error) : (g.settled outcome).1 = g := by
  cases outcome with
  | error e => rfl
  | ok result => cases refused

theorem chooseId_given {id : String} {choice : Graph × String} (chosen : g.chooseId (some id) = .ok choice) :
    choice.1 = g := by
  simp only [chooseId] at chosen
  split at chosen
  · cases chosen
  · split at chosen
    · cases chosen
    · cases chosen
      rfl

theorem add_refused_given {typeId id : String} {params : Params} {position : Value} {error : EditError}
    (refused : (g.add r typeId (some id) params position).2 = .error error) :
    (g.add r typeId (some id) params position).1 = g := by
  unfold add at refused ⊢
  split
  · rfl
  · rename_i free
    rw [if_neg free] at refused
    cases chosen : g.chooseId (some id) with
    | error e => rfl
    | ok choice =>
      simp only [chosen] at refused ⊢
      cases made : newNode r typeId choice.2 params position with
      | error e => exact chooseId_given chosen
      | ok n => rw [made] at refused; cases refused

theorem add_refused_made {typeId : String} {params : Params} {position : Value} {error : EditError}
    (free : isPermanentType typeId = false) (refused : (g.add r typeId none params position).2 = .error error) :
    (g.add r typeId none params position).1 = g.renumbered (g.nextFree + 1) := by
  simp only [add, free, Bool.false_eq_true, if_false, chooseId] at refused ⊢
  split
  · rfl
  · rename_i n made
    rw [made] at refused
    cases refused

/-- A refused edit uses up the id it made, and otherwise leaves the graph. -/
theorem edit_refused {e : Edit} {error : EditError} (refused : (g.edit r e).2 = .error error) :
    (¬ e.Generates ∧ (g.edit r e).1 = g) ∨ (e.Generates ∧ (g.edit r e).1 = g.renumbered (g.nextFree + 1)) := by
  cases e with
  | add typeId id? params position =>
    have failed : (g.add r typeId id? params position).2 = .error error := map_error.mp refused
    cases id? with
    | some id => exact Or.inl ⟨not_false, add_refused_given failed⟩
    | none =>
      cases permanent : isPermanentType typeId with
      | false => exact Or.inr ⟨permanent, add_refused_made permanent failed⟩
      | true =>
        refine Or.inl ⟨by simp [Edit.Generates, permanent], ?_⟩
        simp only [edit, add, permanent, if_true]
  | remove id => exact Or.inl ⟨not_false, settled_refused refused⟩
  | connect c => exact Or.inl ⟨not_false, settled_refused refused⟩
  | disconnect output => cases refused
  | beginDrag ref => exact Or.inl ⟨not_false, settled_refused refused⟩
  | endDrag d ref => exact Or.inl ⟨not_false, settled_refused refused⟩

def addDrop : Edit := .add Builtin.drop.typeId none [] (.list [.int 0, .int 0])

theorem addDrop_answer (built : r.Built) (g : Graph) :
    g.answers r [addDrop] = [.ok (.node (generatedId g.nextFree))] := by
  have made : newNode r Builtin.drop.typeId (generatedId g.nextFree) [] (.list [.int 0, .int 0]) =
      .ok { id := generatedId g.nextFree, type := Builtin.drop.nodeType } := by
    rw [newNode, built.get?_builtin .drop]
    rfl
  have added : (g.add r Builtin.drop.typeId none [] (.list [.int 0, .int 0])).2 = .ok (generatedId g.nextFree) := by
    have free : isPermanentType Builtin.drop.typeId = false := by decide
    rw [nextFree] at made
    simp only [add, free, Bool.false_eq_true, if_false, chooseId, made, nextFree]
  have answered : (g.edit r addDrop).2 = .ok (.node (generatedId g.nextFree)) := congrArg (Except.map _) added
  rw [answers, answered, answers]

/-- What a refused edit leaves: all that the graph holds, and every later answer unless the edit used up an id. Then the
    next node that is given none gets another one, and only runs that make ids can tell. -/
theorem refused_edit_spends_an_id (authored : Authored r g) {e : Edit} {error : EditError}
    (refused : (g.edit r e).2 = .error error) :
    (g.edit r e).1.SameContents g ∧
      (¬ e.Generates → ∀ later, (g.edit r e).1.answers r later = g.answers r later ∧
        (g.edit r e).1.edits r later = g.edits r later) ∧
      (e.Generates → ∃ later, (g.edit r e).1.answers r later ≠ g.answers r later) ∧
      ∀ later, (∀ l ∈ later, ¬ l.Generates) → (g.edit r e).1.answers r later = g.answers r later ∧
        ((g.edit r e).1.edits r later).SameContents (g.edits r later) := by
  rcases edit_refused refused with ⟨plain, kept⟩ | ⟨generates, spent⟩
  · rw [kept]
    exact ⟨⟨rfl, rfl, rfl, rfl⟩, fun _ _ => ⟨rfl, rfl⟩, fun generates => absurd generates plain,
      fun _ _ => ⟨rfl, rfl, rfl, rfl, rfl⟩⟩
  · rw [spent]
    refine ⟨g.renumbered_sameContents _, fun plain => absurd generates plain, fun _ => ⟨[addDrop], ?_⟩, ?_⟩
    · have built := authored.well_formed.1
      have later : g.nextFree + 1 ≤ (g.renumbered (g.nextFree + 1)).nextFree := freeNumber_ge _ _ _
      rw [addDrop_answer built, addDrop_answer built]
      intro same
      have ids : generatedId (g.renumbered (g.nextFree + 1)).nextFree = generatedId g.nextFree := by simpa using same
      have numbers := generatedId_injective ids
      omega
    · intro later plain
      obtain ⟨answered, reached⟩ := run_renumbered (g := g) (g.nextFree + 1) plain
      exact ⟨answered, reached ▸ renumbered_sameContents _ _⟩

theorem unknown_type_spends_an_id :
    let refused : Edit := .add "lab:sink" none [] (.list [.int 0, .int 0])
    let after := (Graph.new.edit .builtin refused).1
    (Graph.new.edit .builtin refused).2 = .error (.unknownType "lab:sink") ∧ after.SameContents .new ∧
      (∃ later, after.answers .builtin later ≠ Graph.new.answers .builtin later) ∧
      Graph.new.answers .builtin [addDrop] = [.ok (.node "node-0001")] ∧
      after.answers .builtin [addDrop] = [.ok (.node "node-0002")] := by
  intro refused after
  have unknown : (Graph.new.edit .builtin refused).2 = .error (.unknownType "lab:sink") := by rfl
  obtain ⟨contents, -, differ, -⟩ := refused_edit_spends_an_id (.new .builtin) unknown
  have generates : refused.Generates := by
    have free : isPermanentType "lab:sink" = false := by decide
    exact free
  have second : after.nextFree = 2 := by decide
  exact ⟨unknown, contents, differ generates, by rfl, by rw [addDrop_answer .builtin after, second]; rfl⟩

end Refused

end Graph
end FilterGraph
