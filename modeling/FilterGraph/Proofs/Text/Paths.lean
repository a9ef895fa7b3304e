import FilterGraph.Path

namespace FilterGraph.Path

def components (path : String) : List String := (path.toList.splitOn '/').map String.ofList

theorem components_names {text : String} {names : List String} (written : text.toList = ['/'].intercalate (names.map String.toList))
    (some : names ≠ []) (single : ∀ name ∈ names, '/' ∉ name.toList) : components text = names := by
  have split : text.toList.splitOn '/' = names.map String.toList := by
    rw [written]
    refine List.splitOn_intercalate '/' (fun cs member => ?_) (by simpa using some)
    obtain ⟨name, listed, rfl⟩ := List.mem_map.mp member
    exact single name listed
  have read : String.ofList ∘ String.toList = id := funext fun _ => String.ofList_toList
  rw [components, split, List.map_map, read, List.map_id]

theorem ofText_names {text : String} {names : List String} (written : text.toList = ['/'].intercalate (names.map String.toList))
    (some : names ≠ []) (plain : ∀ name ∈ names, name ≠ "" ∧ '/' ∉ name.toList) :
    ofText text = { absolute := false, parts := names.filter fun name => name != "." } := by
  have start : ∃ c rest, text.toList = c :: rest ∧ c ≠ '/' := by
    obtain ⟨first, others, rfl⟩ := List.exists_cons_of_ne_nil some
    obtain ⟨filled, clean⟩ := plain first List.mem_cons_self
    obtain ⟨c, cs, spelt⟩ := List.exists_cons_of_ne_nil (mt String.toList_eq_nil_iff.mp filled)
    have other : c ≠ '/' := fun same => clean (by rw [spelt, same]; exact List.mem_cons_self)
    rw [List.map_cons, spelt] at written
    cases others with
    | nil => exact ⟨c, cs, by simpa [List.intercalate] using written, other⟩
    | cons second others =>
      rw [List.map_cons, List.intercalate_cons_cons, List.cons_append, List.cons_append] at written
      exact ⟨c, _, written, other⟩
  obtain ⟨c, rest, spelt, other⟩ := start
  have relative (more : List Char) : ('/' :: more).isPrefixOf text.toList = false := by
    rw [spelt, List.isPrefixOf, beq_false_of_ne (Ne.symm other), Bool.false_and]
  have parts : (components text).filter (fun part => part != "" && part != ".") = names.filter fun name => name != "." := by
    rw [components_names written some fun name member => (plain name member).2]
    refine List.filter_congr fun name member => ?_
    simp [(plain name member).1]
  rw [components] at parts
  rw [ofText]
  simp only [relative, parts, Bool.false_and]

end FilterGraph.Path
