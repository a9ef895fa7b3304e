import FilterGraph.Proofs.Snapshot.Acceptance

namespace FilterGraph

def Node.AddedBy (n : Node) : Edit → Prop
  | .add _ _ params _ => n.params = params ∧ Graph.isGivenId n.id = true
  | _ => False

namespace Graph

theorem isNodeId_generated (k : Nat) : isNodeId (generatedId k).toList = true := by
  have digits : ∀ c ∈ (Text.decimalPadded 4 k).toList, (c.isAlphanum || c == '_' || c == '-') = true := by
    intro c member
    simp [Char.isAlphanum, Text.isDigit_decimalPadded 4 k c member]
  have text : (generatedId k).toList = 'n' :: ['o', 'd', 'e', '-'] ++ (Text.decimalPadded 4 k).toList := by
    rw [generatedId, String.toList_append]
    rfl
  rw [text]
  simp only [isNodeId, List.cons_append, List.all_cons, List.nil_append]
  simp only [List.all_eq_true.mpr digits]
  rfl

theorem getLast?_of_isNodeId {cs : List Char} (named : isNodeId cs = true) : cs.getLast? ≠ some '\n' := by
  intro last
  have member := List.mem_of_getLast? last
  cases cs with
  | nil => cases member
  | cons c rest =>
    simp only [isNodeId, Bool.and_eq_true, List.all_eq_true] at named
    rcases List.mem_cons.mp member with rfl | later
    · exact absurd named.1 (by decide)
    · exact absurd (named.2 _ later) (by decide)

theorem isGivenId_of_isNodeId {id : String} (named : isNodeId id.toList = true) : isGivenId id = true := by
  simp only [isGivenId, named, Bool.true_or]

/-- Of the ids that may be given, a document holds those that do not end with a line feed. -/
theorem isNodeId_iff {id : String} (given : isGivenId id = true) :
    isNodeId id.toList = true ↔ id.toList.getLast? ≠ some '\n' := by
  refine ⟨getLast?_of_isNodeId, fun last => ?_⟩
  simp only [isGivenId, Bool.or_eq_true, Bool.and_eq_true, beq_iff_eq] at given
  exact given.resolve_right fun ended => last ended.1

section Edits

variable {r : Registry} {g : Graph}

theorem chosen_given {id? : Option String} {next : Graph} {id : String} (chosen : g.chooseId id? = .ok (next, id)) :
    isGivenId id = true := by
  cases id? with
  | none =>
    cases chosen
    exact isGivenId_of_isNodeId (isNodeId_generated _)
  | some given =>
    simp only [chooseId] at chosen
    split at chosen
    · cases chosen
    · split at chosen
      · cases chosen
      · rename_i _ fine
        cases chosen
        simpa using fine

theorem mem_added {typeId : String} {id? : Option String} {params : Params} {position : Value} {n : Node}
    (member : n ∈ (g.add r typeId id? params position).1.nodes) :
    n ∈ g.nodes ∨ n.params = params ∧ isGivenId n.id = true := by
  rcases g.add_cases r typeId id? params position with ⟨e, k, refused⟩ | ⟨m, k, added, -, -, -, given, _, chosen⟩
  · rw [refused] at member
    exact Or.inl member
  · rw [added] at member
    rcases List.mem_append.mp member with old | new
    · exact Or.inl old
    · rw [List.mem_singleton.mp new]
      exact Or.inr ⟨given, chosen_given chosen⟩

theorem settled_nodes {outcome : Except EditError (Graph × Edit.Answer)}
    (fewer : ∀ result, outcome = .ok result → result.1.nodes ⊆ g.nodes) : (g.settled outcome).1.nodes ⊆ g.nodes := by
  cases outcome with
  | error e => exact fun _ => id
  | ok result => exact fewer result rfl

theorem connect_nodes {c : Connection} {next : Graph} (made : g.connect c = .ok next) : next.nodes = g.nodes := by
  obtain ⟨-, -, rfl⟩ := connect_ok.mp made
  rfl

theorem cut_nodes {next : Graph} {output : PortRef} (cut : next = g.unplugged output ∨ next = g) :
    next.nodes = g.nodes := by
  rcases cut with rfl | rfl <;> rfl

theorem mem_edited {e : Edit} {n : Node} (member : n ∈ (g.edit r e).1.nodes) : n ∈ g.nodes ∨ n.AddedBy e := by
  cases e with
  | add typeId id? params position => exact mem_added member
  | remove id =>
    refine Or.inl (settled_nodes (fun result done => ?_) member)
    obtain ⟨next, removed, rfl⟩ := map_ok done
    obtain ⟨-, -, rfl⟩ := remove_ok removed
    exact fun _ kept => (List.mem_filter.mp kept).1
  | connect c =>
    refine Or.inl (settled_nodes (fun result done => ?_) member)
    obtain ⟨next, made, rfl⟩ := map_ok done
    exact fun _ kept => connect_nodes made ▸ kept
  | disconnect output =>
    have same := cut_nodes (g.disconnect_graph output)
    exact Or.inl (same ▸ member)
  | beginDrag p =>
    refine Or.inl (settled_nodes (fun result done => ?_) member)
    obtain ⟨⟨next, d⟩, begun, rfl⟩ := map_ok done
    exact fun _ kept => cut_nodes (beginDrag_ok begun) ▸ kept
  | endDrag d p =>
    refine Or.inl (settled_nodes (fun result done => ?_) member)
    obtain ⟨⟨next, c?⟩, ended, rfl⟩ := map_ok done
    rcases endDrag_ok ended with ⟨c, made⟩ | rfl
    · exact fun _ kept => connect_nodes made ▸ kept
    · exact fun _ => id

end Edits

theorem new_ids : ∀ n ∈ Graph.new.nodes, isNodeId n.id.toList = true := by
  have ids : ∀ id ∈ Graph.new.nodeIds, isNodeId id.toList = true := by decide
  exact fun n member => ids n.id (List.mem_map_of_mem member)

theorem Authored.given {r : Registry} {g : Graph} (authored : Authored r g) : ∀ n ∈ g.nodes, isGivenId n.id = true := by
  induction authored with
  | new built => exact fun n member => isGivenId_of_isNodeId (new_ids n member)
  | opened built valid opening =>
    obtain ⟨nodes, -⟩ := ofSnapshot_contents (openSnapshot_ok opening).2
    exact fun n member => isGivenId_of_isNodeId (valid.ids n.saved (nodes ▸ List.mem_map_of_mem member))
  | loaded _ loading ih => exact ih
  | edited _ e ih =>
    intro n member
    rcases mem_edited member with old | new
    · exact ih n old
    · cases e with
      | add typeId id? params position => exact new.2
      | _ => exact new.elim
  | written _ id name value ih =>
    intro n member
    obtain ⟨m, old, same, -⟩ := mem_setParam _ id name value member
    exact same ▸ ih m old
  | annotated _ metadata ih => exact ih

end Graph
end FilterGraph
