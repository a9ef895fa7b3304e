import FilterGraph.Proofs.Graph.Refusal

namespace FilterGraph.Graph

def made? (r : Registry) (g : Graph) : Edit → Option String
  | .add typeId none params position => (g.add r typeId none params position).2.toOption
  | _ => none

def madeIds (r : Registry) (g : Graph) : List Edit → List String
  | [] => []
  | e :: rest => (g.made? r e).toList ++ madeIds r (g.edit r e).1 rest

theorem append_lt_append_iff (start xs ys : List Char) : start ++ xs < start ++ ys ↔ xs < ys := by
  induction start with
  | nil => rfl
  | cons c start ih => simp [ih]

theorem generatedId_lt_iff {m n : Nat} (less : m < n) :
    generatedId m < generatedId n ↔ m ≤ n / 10 ^ ((generatedId n).length - (generatedId m).length) := by
  have lengths : (generatedId n).length - (generatedId m).length =
      (Text.decimalPadded 4 n).length - (Text.decimalPadded 4 m).length := by
    simp only [generatedId, String.length_append]
    omega
  have texts : generatedId m < generatedId n ↔ Text.decimalPadded 4 m < Text.decimalPadded 4 n := by
    change (generatedId m).toList < (generatedId n).toList ↔ _
    rw [generatedId, generatedId, String.toList_append, String.toList_append, append_lt_append_iff]
    rfl
  rw [lengths, texts, Text.decimalPadded_lt_iff less]

theorem length_generatedId {n : Nat} (small : n < 10 ^ 4) : (generatedId n).length = 9 := by
  rw [generatedId, String.length_append, Text.length_decimalPadded_small (by decide) small]
  rfl

section Counter

variable {r : Registry} {g : Graph}

theorem nextId_edit_plain {e : Edit} (plain : ¬ e.Generates) : (g.edit r e).1.nextId = g.nextId := by
  have same : g.edit r e = ((g.edit r e).1.renumbered g.nextId, (g.edit r e).2) := edit_renumbered g.nextId plain
  exact congrArg (fun result => result.1.nextId) same

theorem nextId_add {typeId : String} (params : Params) (position : Value) (free : isPermanentType typeId = false) :
    (g.add r typeId none params position).1.nextId = g.nextFree + 1 := by
  simp only [add, free, Bool.false_eq_true, if_false, chooseId]
  split <;> rfl

theorem nextId_edit_le (e : Edit) : g.nextId ≤ (g.edit r e).1.nextId := by
  by_cases generates : e.Generates
  · cases e with
    | add typeId id? params position =>
      cases id? with
      | none =>
        have next : (g.edit r (.add typeId none params position)).1.nextId = g.nextFree + 1 :=
          nextId_add params position generates
        have free : g.nextId ≤ g.nextFree := g.freeNumber_ge _ _
        omega
      | some id => exact absurd generates not_false
    | _ => exact absurd generates not_false
  · exact Nat.le_of_eq (nextId_edit_plain generates).symm

theorem made?_eq_some {e : Edit} {id : String} (made : g.made? r e = some id) :
    id = generatedId g.nextFree ∧ (g.edit r e).1.nextId = g.nextFree + 1 := by
  cases e with
  | add typeId id? params position =>
    cases id? with
    | some given => cases made
    | none =>
      cases free : isPermanentType typeId with
      | true => simp [made?, add, free, Except.toOption] at made
      | false =>
        refine ⟨?_, nextId_add params position free⟩
        simp only [made?, add, free, Bool.false_eq_true, if_false, chooseId] at made
        split at made <;> simp [Except.toOption] at made
        exact made.symm
  | _ => cases made

theorem madeIds_numbers (r : Registry) (g : Graph) (es : List Edit) :
    ∃ numbers : List Nat, g.madeIds r es = numbers.map generatedId ∧ numbers.Pairwise (· < ·) ∧ ∀ n ∈ numbers, g.nextId ≤ n := by
  induction es generalizing g with
  | nil => exact ⟨[], rfl, .nil, nofun⟩
  | cons e rest ih =>
    obtain ⟨numbers, same, ascending, above⟩ := ih (g.edit r e).1
    cases made : g.made? r e with
    | none =>
      refine ⟨numbers, by simp [madeIds, made, same], ascending, fun n member => ?_⟩
      exact Nat.le_trans (nextId_edit_le e) (above n member)
    | some id =>
      obtain ⟨rfl, next⟩ := made?_eq_some made
      have free : g.nextId ≤ g.nextFree := g.freeNumber_ge _ _
      refine ⟨g.nextFree :: numbers, by simp [madeIds, made, same], List.pairwise_cons.mpr ⟨fun n member => ?_, ascending⟩, ?_⟩
      · have := above n member
        omega
      · intro n member
        rcases List.mem_cons.mp member with rfl | later
        · exact free
        · have := above n later
          omega

end Counter

/-- The ids of a run are made with ascending numbers. An id comes before a later one exactly when its number is at most
    what the later one begins with in as many digits, which is so of all ids with numbers below ten thousand. -/
theorem made_ids_order (r : Registry) (g : Graph) (es : List Edit) :
    ∃ numbers : List Nat, g.madeIds r es = numbers.map generatedId ∧ numbers.Pairwise (· < ·) ∧
      ((g.madeIds r es).Pairwise (· < ·) ↔
        numbers.Pairwise fun m n => m ≤ n / 10 ^ ((generatedId n).length - (generatedId m).length)) ∧
      ((∀ n ∈ numbers, n < 10 ^ 4) → (g.madeIds r es).Pairwise (· < ·)) := by
  obtain ⟨numbers, same, ascending, -⟩ := madeIds_numbers r g es
  have texts : (g.madeIds r es).Pairwise (· < ·) ↔
      numbers.Pairwise fun m n => m ≤ n / 10 ^ ((generatedId n).length - (generatedId m).length) := by
    rw [same, List.pairwise_map]
    exact ⟨fun sorted => (ascending.and sorted).imp fun both => (generatedId_lt_iff both.1).mp both.2,
      fun first => (ascending.and first).imp fun both => (generatedId_lt_iff both.1).mpr both.2⟩
  refine ⟨numbers, same, ascending, texts, fun small => texts.mpr ?_⟩
  refine ascending.imp_of_mem fun {m n} left right less => ?_
  rw [length_generatedId (small m left), length_generatedId (small n right), Nat.sub_self, Nat.pow_zero, Nat.div_one]
  exact Nat.le_of_lt less

section Aged

def addUnknown : Edit := .add "lab:sink" none [] (.list [.int 0, .int 0])

theorem freeNumber_free_here {g : Graph} {n : Nat} (free : g.contains (generatedId n) = false) (tries : Nat) :
    g.freeNumber (tries + 1) n = n := by
  simp [freeNumber, free]

theorem nextFree_new (n : Nat) : (Graph.new.renumbered n).nextFree = n := by
  have starts : (generatedId n).toList.head? = some 'n' := by simp [generatedId]
  have source : generatedId n ≠ sourceId := by
    intro same
    rw [same] at starts
    exact absurd starts (by decide)
  have localhost : generatedId n ≠ localhostId := by
    intro same
    rw [same] at starts
    exact absurd starts (by decide)
  have ids : (Graph.new.renumbered n).nodeIds = [sourceId, localhostId] := rfl
  have free : (Graph.new.renumbered n).contains (generatedId n) = false := by
    simp [contains, ids, source, localhost]
  exact freeNumber_free_here free _

theorem madeIds_refused (count n : Nat) (es : List Edit) :
    (Graph.new.renumbered n).madeIds .builtin (List.replicate count addUnknown ++ es) =
      (Graph.new.renumbered (n + count)).madeIds .builtin es := by
  induction count generalizing n with
  | zero => rfl
  | succ count ih =>
    have refused : ((Graph.new.renumbered n).edit .builtin addUnknown).2 = .error (.unknownType "lab:sink") := by rfl
    have nothing : (Graph.new.renumbered n).made? .builtin addUnknown = none := by rfl
    have next : ((Graph.new.renumbered n).edit .builtin addUnknown).1 = Graph.new.renumbered (n + 1) := by
      rcases edit_refused refused with ⟨plain, -⟩ | ⟨-, spent⟩
      · have free : isPermanentType "lab:sink" = false := by decide
        exact absurd free plain
      · rw [spent, nextFree_new]
        rfl
    rw [List.replicate_succ, List.cons_append, madeIds, nothing, next, ih, Option.toList_none, List.nil_append,
      Nat.add_assoc, Nat.add_comm 1]

theorem ten_thousandth_id_first :
    let run := List.replicate 9998 addUnknown ++ [addDrop, addDrop]
    Graph.new.madeIds .builtin run = ["node-9999", "node-10000"] ∧
      ¬ (Graph.new.madeIds .builtin run).Pairwise (· < ·) ∧
      (Graph.new.madeIds .builtin [addDrop, addDrop]).Pairwise (· < ·) := by
  intro run
  have made : Graph.new.madeIds .builtin run = [generatedId 9999, generatedId 10000] := by
    have skipped := madeIds_refused 9998 1 [addDrop, addDrop]
    have last : (Graph.new.renumbered 9999).madeIds .builtin [addDrop, addDrop] = [generatedId 9999, generatedId 10000] := by rfl
    exact skipped.trans last
  refine ⟨made, ?_, ?_⟩
  · obtain ⟨numbers, same, -, sorted, -⟩ := made_ids_order .builtin .new run
    have numbered : [9999, 10000] = numbers :=
      List.map_injective_iff.mpr (fun _ _ => generatedId_injective) (made.symm.trans same)
    rw [sorted, ← numbered]
    decide
  · obtain ⟨numbers, same, -, -, small⟩ := made_ids_order .builtin .new [addDrop, addDrop]
    have first : Graph.new.madeIds .builtin [addDrop, addDrop] = [generatedId 1, generatedId 2] := by rfl
    have numbered : [1, 2] = numbers :=
      List.map_injective_iff.mpr (fun _ _ => generatedId_injective) (first.symm.trans same)
    exact small (by rw [← numbered]; decide)

end Aged

end FilterGraph.Graph
