import FilterGraph.Export
import FilterGraph.Proofs.Files.Way

namespace FilterGraph

def Entry.isFolder : Entry → Bool
  | .folder => true
  | .file _ _ => false

namespace FileTree

def Inside (folder q : List String) : Prop := ∃ rest, q = folder ++ rest ∧ ".." ∉ rest

structure Filled (folder : List String) (t u : FileTree) : Prop where
  ideal : u.Ideal
  home : u.home = t.home
  same : ∀ q, ¬ Inside folder q → u.entry? q = t.entry? q
  kinds : ∀ q, t.entry? q = none ∨ Option.map Entry.isFolder (u.entry? q) = Option.map Entry.isFolder (t.entry? q)

theorem isFolder_eq {found : Option Entry} (folder : found.map Entry.isFolder = some true) : found = some .folder := by
  cases found with
  | none => cases folder
  | some e =>
    cases e with
    | folder => rfl
    | file => cases folder

section Filled

variable {folder q : List String} {t u v : FileTree} {p : Path} {e : Entry}

theorem Filled.refl (ideal : t.Ideal) : Filled folder t t := ⟨ideal, rfl, fun _ _ => rfl, fun _ => Or.inr rfl⟩

theorem Filled.trans (first : Filled folder t u) (second : Filled folder u v) : Filled folder t v := by
  refine ⟨second.ideal, second.home.trans first.home, fun q outside => ?_, fun q => ?_⟩
  · rw [second.same q outside, first.same q outside]
  · rcases first.kinds q with free | same
    · exact Or.inl free
    · rcases second.kinds q with free | same'
      · rw [free, Option.map_none, eq_comm, Option.map_eq_none_iff] at same
        exact Or.inl same
      · exact Or.inr (same'.trans same)

theorem Filled.folders (filled : Filled folder t u) (here : t.entry? q = some .folder) : u.entry? q = some .folder := by
  rcases filled.kinds q with free | same
  · rw [here] at free
    cases free
  · rw [here] at same
    exact isFolder_eq same

theorem Filled.place (filled : Filled folder t u) (ideal : t.Ideal) (led : t.place p = .ok q) : u.place p = .ok q :=
  place_kept ideal filled.ideal filled.home led fun _ _ _ _ here => filled.folders here

theorem Filled.put (ideal : t.Ideal) (inside : Inside folder q) (above : t.entry? q.dropLast = some .folder)
    (other : t.entry? q ≠ some .folder) {bytes : List UInt8} {executable : Bool} :
    Filled folder t (t.put q (.file bytes executable)) := by
  have inner := inner_of_entry other
  refine ⟨ideal.put inner above fun here => absurd here other, t.home_put _ _, fun x outside => ?_, fun x => ?_⟩
  · have apart : x ≠ q := fun same => outside (same ▸ inside)
    rw [entry_put inner, if_neg apart]
  · rw [entry_put inner]
    by_cases here : x = q
    · subst here
      rw [if_pos rfl]
      cases found : t.entry? x with
      | none => exact Or.inl rfl
      | some e =>
        cases e with
        | folder => exact absurd found other
        | file => exact Or.inr rfl
    · rw [if_neg here]
      exact Or.inr rfl

theorem Filled.grown {made : List (List String)} (grown : Grown made t u)
    (inside : ∀ x ∈ made, t.entry? x = some .folder ∨ Inside folder x) : Filled folder t u := by
  refine ⟨grown.ideal, grown.home, fun q outside => ?_, fun q => ?_⟩
  · rcases grown.same q with same | ⟨free, -, on⟩
    · exact same
    · rcases inside q on with here | below
      · rw [here] at free
        cases free
      · exact absurd below outside
  · rcases grown.same q with same | ⟨free, -, -⟩
    · exact Or.inr (congrArg _ same)
    · exact Or.inl free

end Filled

section Steps

variable {t u : FileTree} (ideal : t.Ideal) {p : Path} {folder : List String}

include ideal

section Write

variable {q : List String} {bytes : List UInt8}

theorem write_ok (done : t.write p bytes = .ok u) : ∃ q, t.place p = .ok q ∧ t.entry? q ≠ some .folder ∧
    t.entry? q.dropLast = some .folder ∧ ∃ executable, (t.entry? q = none → executable = false) ∧
      u = t.put q (.file bytes executable) := by
  obtain ⟨q, led, done⟩ := bind_ok done
  cases found : t.entry? q with
  | none =>
    simp only [found] at done
    split at done
    · rename_i above
      cases done
      exact ⟨q, led, by simp [found], above, false, fun _ => rfl, rfl⟩
    · cases done
    · cases done
  | some e =>
    cases e with
    | folder =>
      simp only [found] at done
      cases done
    | file old executable =>
      simp only [found] at done
      cases done
      exact ⟨q, led, by simp [found], ideal.toSound.folder_above found, executable, by simp [found], rfl⟩

omit ideal in
theorem write_done (led : t.place p = .ok q) (free : t.entry? q = none) (above : t.entry? q.dropLast = some .folder) :
    t.write p bytes = .ok (t.put q (.file bytes false)) := by
  rw [write, led]
  simp only [Bind.bind, Except.bind, free, above]
  rfl

omit ideal in
theorem makeExecutable_ok (done : t.makeExecutable p = .ok u) : ∃ q bytes executable, t.place p = .ok q ∧
    t.entry? q = some (.file bytes executable) ∧ u = t.put q (.file bytes true) := by
  obtain ⟨q, led, done⟩ := bind_ok done
  split at done
  · rename_i bytes executable found
    cases done
    exact ⟨q, bytes, executable, led, found, rfl⟩
  · cases done

omit ideal in
theorem makeExecutable_done {executable : Bool} (led : t.place p = .ok q)
    (found : t.entry? q = some (.file bytes executable)) : t.makeExecutable p = .ok (t.put q (.file bytes true)) := by
  rw [makeExecutable, led]
  simp only [Bind.bind, Except.bind, found]
  rfl

end Write

section Below

variable (led : t.place p = .ok folder) (here : t.entry? folder = some .folder)

include led

/-- On the way to a place below a folder there are folders, and then what is below. -/
theorem way_below {names : List String} (plain : ".." ∉ names) :
    ∃ before, t.below? p = some before ∧ folder = follow [] before ∧
      ∀ x ∈ way [] (before ++ names) ++ [follow [] (before ++ names)],
        t.entry? x = some .folder ∨ ∃ on, on <+: names ∧ x = folder ++ on := by
  obtain ⟨-, before, known, rfl, folders⟩ := (place_ok ideal).mp led
  refine ⟨before, known, rfl, fun x member => ?_⟩
  rw [way_append, follow_append, follow_plain plain] at member
  rcases List.mem_append.mp member with before | last
  · rcases List.mem_append.mp before with first | later
    · exact Or.inl (folders x first)
    · obtain ⟨on, above, -, rfl⟩ := (mem_way_plain plain).mp later
      exact Or.inr ⟨on, above, rfl⟩
  · exact Or.inr ⟨names, List.prefix_rfl, List.mem_singleton.mp last⟩

theorem makeFolders_below_done {names : List String} (plain : ".." ∉ names) (noZero : names.any hasZero = false)
    (clear : ∀ on, on <+: names → t.entry? (folder ++ on) = none ∨ t.entry? (folder ++ on) = some .folder) :
    ∃ u, t.makeFolders (p.below names) = (u, .ok ()) := by
  obtain ⟨noZero', -⟩ := (place_ok ideal).mp led
  obtain ⟨before, known, -, passed⟩ := way_below ideal led plain
  refine makeFolders_done ideal (below?_append ideal known) ?_ fun x member => ?_
  · rw [Path.below, List.any_append, noZero', noZero, Bool.false_or]
  · rcases passed x member with old | ⟨on, above, rfl⟩
    · exact Or.inr old
    · exact clear on above

include here

theorem makeFolders_below {names : List String} (plain : ".." ∉ names) {outcome : Except FileFailure Unit}
    (run : t.makeFolders (p.below names) = (u, outcome)) : Filled folder t u ∧
      (outcome = .ok () → u.place (p.below names) = .ok (folder ++ names) ∧
        ∀ rest, u.entry? (folder ++ rest) = if rest <+: names then some .folder else t.entry? (folder ++ rest)) := by
  obtain ⟨before, known, rfl, passed⟩ := way_below ideal led plain
  obtain ⟨grown, made⟩ := makeFolders_grown ideal run (below?_append ideal known)
  constructor
  · refine .grown grown fun x member => ?_
    rcases passed x member with old | ⟨on, above, rfl⟩
    · exact Or.inl old
    · exact Or.inr ⟨on, rfl, fun back => plain (above.subset back)⟩
  · intro done
    obtain ⟨led', last⟩ := made done
    rw [follow_append, follow_plain plain] at led' last
    refine ⟨led', fun rest => ?_⟩
    by_cases above : rest <+: names
    · rw [if_pos above]
      by_cases all : rest = names
      · rw [all, last]
      · have above' : follow [] before ++ rest <+: follow [] before ++ names := (List.prefix_append_right_inj _).mpr above
        exact grown.ideal.toSound.folder_over last above' fun same => all (List.append_cancel_left same)
    · rw [if_neg above]
      rcases grown.same (follow [] before ++ rest) with same | ⟨free, -, on⟩
      · exact same
      · rcases passed _ on with old | ⟨on, above', same⟩
        · rw [old] at free
          cases free
        · exact absurd (List.append_cancel_left same ▸ above') above

end Below

end Steps

end FileTree
end FilterGraph
