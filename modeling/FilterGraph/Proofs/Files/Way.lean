import FilterGraph.Proofs.Files.Tree
import FilterGraph.Proofs.Outcome

namespace FilterGraph

namespace FileTree

def step (place : List String) (name : String) : List String :=
  if name == ".." then (if isOuter place then place ++ [".."] else place.dropLast) else place ++ [name]

def follow (place names : List String) : List String := names.foldl step place

def way (place : List String) : List String → List (List String)
  | [] => []
  | name :: rest => place :: way (step place name) rest

section Names

variable {place names rest q : List String} {name : String}

theorem follow_append : follow place (names ++ rest) = follow (follow place names) rest := List.foldl_append

theorem way_append : way place (names ++ rest) = way place names ++ way (follow place names) rest := by
  induction names generalizing place with
  | nil => rfl
  | cons name names ih => exact congrArg (place :: ·) ih

theorem way_concat : way place (names ++ [name]) = way place names ++ [follow place names] := way_append

theorem follow_take_mem {n : Nat} : follow place (names.take n) ∈ way place names ++ [follow place names] := by
  induction names generalizing place n with
  | nil =>
    rw [List.take_nil]
    exact List.mem_cons_self
  | cons name rest ih =>
    cases n with
    | zero => exact List.mem_cons_self
    | succ n => exact List.mem_cons_of_mem _ ih

theorem way_take_subset {n : Nat} : way place (names.take n) ⊆ way place names := by
  have cut : way place (names.take n ++ names.drop n) = _ := way_append
  rw [List.take_append_drop] at cut
  exact cut ▸ List.subset_append_left _ _

theorem zero_of_subset (part : names ⊆ rest) (bad : names.any hasZero = true) : rest.any hasZero = true := by
  obtain ⟨name, member, bad⟩ := List.any_eq_true.mp bad
  exact List.any_eq_true.mpr ⟨name, part member, bad⟩

theorem noZero_of_subset (part : names ⊆ rest) (noZero : rest.any hasZero = false) : names.any hasZero = false := by
  rw [← Bool.not_eq_true] at noZero ⊢
  exact mt (zero_of_subset part) noZero

theorem step_plain (plain : name ≠ "..") : step place name = place ++ [name] := if_neg (mt eq_of_beq plain)

theorem step_back (inner : isOuter place = false) : step place ".." = place.dropLast := by
  rw [step, if_pos (beq_self_eq_true _), if_neg (Bool.not_eq_true _ ▸ inner)]

theorem follow_plain (plain : ".." ∉ names) : follow place names = place ++ names := by
  induction names generalizing place with
  | nil => exact (List.append_nil place).symm
  | cons name names ih =>
    obtain ⟨first, later⟩ := not_or.mp (mt List.mem_cons.mpr plain)
    have on : follow place (name :: names) = follow (step place name) names := rfl
    rw [on, ih later, step_plain (Ne.symm first), List.append_assoc, List.singleton_append]

theorem mem_way_plain (plain : ".." ∉ names) :
    q ∈ way place names ↔ ∃ passed, passed <+: names ∧ passed ≠ names ∧ q = place ++ passed := by
  induction names using List.reverseRecOn with
  | nil => simp [way]
  | append_singleton names name ih =>
    have before : ".." ∉ names := fun member => plain (List.mem_append_left _ member)
    rw [way_concat, List.mem_append, List.mem_singleton, ih before, follow_plain before]
    constructor
    · rintro (⟨passed, above, -, rfl⟩ | rfl)
      · have shorter := above.length_le
        refine ⟨passed, above.trans (List.prefix_append _ _), fun same => ?_, rfl⟩
        simp only [same, List.length_append, List.length_singleton] at shorter
        omega
      · exact ⟨names, List.prefix_append _ _, by simp, rfl⟩
    · rintro ⟨passed, above, differ, rfl⟩
      have above' := (List.prefix_concat_iff.mp above).resolve_left differ
      by_cases same : passed = names
      · exact Or.inr (same ▸ rfl)
      · exact Or.inl ⟨passed, above', same, rfl⟩

end Names

/-- A sound tree whose names may be long, seen from an absolute path without zero bytes. -/
structure Ideal (t : FileTree) : Prop extends t.Sound where
  unlimited : t.nameLimit = none
  rooted : t.home.absolute = true
  clean : t.home.parts.any hasZero = false

theorem home_put (t : FileTree) (q : List String) (e : Entry) : (t.put q e).home = t.home := by
  rw [put]
  split <;> rfl

theorem Ideal.put {t : FileTree} {q : List String} {e : Entry} (ideal : t.Ideal) (inner : isOuter q = false)
    (above : t.entry? q.dropLast = some .folder) (keeps : t.entry? q = some .folder → e = .folder) :
    (t.put q e).Ideal := by
  have limit : (t.put q e).nameLimit = t.nameLimit := by
    rw [FileTree.put]
    split <;> rfl
  exact ⟨ideal.toSound.put inner above keeps, limit.trans ideal.unlimited, t.home_put q e ▸ ideal.rooted,
    t.home_put q e ▸ ideal.clean⟩

theorem Ideal.remove {t : FileTree} {q : List String} (ideal : t.Ideal) (inner : isOuter q = false) : (t.remove q).Ideal :=
  ⟨ideal.toSound.remove inner, ideal.unlimited, ideal.rooted, ideal.clean⟩

section Walk

variable {t : FileTree} (ideal : t.Ideal) {place names rest q : List String}

include ideal

theorem walk_step {name : String} (here : t.entry? place = some .folder) :
    t.walk place (name :: rest) = t.walk (step place name) rest := by
  have admitted : t.admits name = true := by rw [admits, ideal.unlimited]
  simp only [walk, here, step, admitted, Bool.not_true, Bool.false_eq_true, if_false]
  split <;> rfl

theorem walk_ok : t.walk place names = .ok q ↔
    q = follow place names ∧ ∀ x ∈ way place names, t.entry? x = some .folder := by
  induction names generalizing place with
  | nil => simp [walk, way, follow, eq_comm]
  | cons name rest ih =>
    rw [way, List.forall_mem_cons]
    cases here : t.entry? place with
    | none => simp [walk, here]
    | some e =>
      cases e with
      | file bytes executable => simp [walk, here]
      | folder =>
        rw [walk_step ideal here, ih, eq_self, true_and]
        rfl

theorem walk_missing (clear : ∀ x ∈ way place names, t.entry? x = none ∨ t.entry? x = some .folder) {e : FileError}
    (failed : t.walk place names = .error e) : e = .missing := by
  induction names generalizing place with
  | nil => cases failed
  | cons name rest ih =>
    obtain ⟨free | here, later⟩ := List.forall_mem_cons.mp clear
    · rw [walk, free] at failed
      cases failed
      rfl
    · exact ih later (walk_step ideal here ▸ failed)

omit ideal in
theorem walk_error {e : FileError} (failed : t.walk place names = .error e) : e ≠ .zeroByte := by
  induction names generalizing place with
  | nil => cases failed
  | cons name rest ih =>
    rw [walk] at failed
    split at failed
    · cases failed
      simp
    · cases failed
      simp
    · split at failed
      · exact ih failed
      · split at failed
        · cases failed
          simp
        · exact ih failed

end Walk

section Below

variable {t : FileTree} (ideal : t.Ideal) {p : Path} {names rest : List String}

include ideal

theorem below?_eq_some : t.below? p = some names ↔ p.parts = (if p.absolute then t.home.parts else []) ++ names := by
  cases absolute : p.absolute with
  | false => simp [below?, absolute, ideal.rooted]
  | true =>
    simp only [below?, absolute, ideal.rooted, beq_self_eq_true, Bool.true_and, List.isPrefixOf_iff_prefix, if_true]
    constructor
    · intro known
      split at known
      · rename_i inside
        obtain ⟨rest, same⟩ := inside
        cases known
        rw [← same, List.drop_left]
      · cases known
    · intro same
      rw [same, if_pos (List.prefix_append _ _), List.drop_left]

theorem below?_append (known : t.below? p = some names) : t.below? (p.below rest) = some (names ++ rest) := by
  have parts := (below?_eq_some ideal).mp known
  refine (below?_eq_some ideal).mpr ?_
  simp only [Path.below, parts, List.append_assoc]

theorem below?_subset (known : t.below? p = some names) : names ⊆ p.parts := by
  rw [(below?_eq_some ideal).mp known]
  exact List.subset_append_right _ _

end Below

section Place

variable {t : FileTree} (ideal : t.Ideal) {p : Path} {q : List String}

include ideal

theorem place_ok : t.place p = .ok q ↔ p.parts.any hasZero = false ∧
    ∃ names, t.below? p = some names ∧ q = follow [] names ∧ ∀ x ∈ way [] names, t.entry? x = some .folder := by
  rw [place]
  by_cases zero : p.parts.any hasZero = true
  · simp [zero]
  · rw [if_neg zero, and_iff_right (Bool.not_eq_true _ ▸ zero)]
    cases known : t.below? p with
    | none => simp
    | some names => simp [walk_ok ideal]

/-- A path still leads to its place where the folders on the way are still there. -/
theorem place_kept {u : FileTree} (other : u.Ideal) (same : u.home = t.home) (led : t.place p = .ok q)
    (kept : ∀ names, t.below? p = some names → ∀ x ∈ way [] names, t.entry? x = some .folder → u.entry? x = some .folder) :
    u.place p = .ok q := by
  obtain ⟨plain, names, known, rfl, folders⟩ := (place_ok ideal).mp led
  have known' : u.below? p = some names := by rwa [below?, same]
  exact (place_ok other).mpr ⟨plain, names, known', rfl, fun x member => kept names known x member (folders x member)⟩

theorem place_below {folder rest : List String} (led : t.place p = .ok folder) (plain : ".." ∉ rest) :
    t.place (p.below rest) = .ok q ↔ rest.any hasZero = false ∧ q = folder ++ rest ∧
      ∀ passed, passed <+: rest → passed ≠ rest → t.entry? (folder ++ passed) = some .folder := by
  obtain ⟨noZero, names, known, rfl, folders⟩ := (place_ok ideal).mp led
  have parts : (p.below rest).parts = p.parts ++ rest := rfl
  rw [place_ok ideal, parts, List.any_append, noZero, Bool.false_or, below?_append ideal known]
  refine and_congr_right fun _ => ?_
  simp only [Option.some.injEq, exists_eq_left']
  rw [follow_append, follow_plain plain, way_append]
  refine and_congr_right fun _ => ?_
  constructor
  · intro all passed above differ
    exact all _ (List.mem_append_right _ ((mem_way_plain plain).mpr ⟨passed, above, differ, rfl⟩))
  · intro all x member
    rcases List.mem_append.mp member with before | after
    · exact folders x before
    · obtain ⟨passed, above, differ, rfl⟩ := (mem_way_plain plain).mp after
      exact all passed above differ

end Place

/-- What is at a place stays, or a folder is made where nothing was. -/
def Kept (made : List (List String)) (t u : FileTree) (q : List String) : Prop :=
  u.entry? q = t.entry? q ∨ t.entry? q = none ∧ u.entry? q = some .folder ∧ q ∈ made

structure Grown (made : List (List String)) (t u : FileTree) : Prop where
  ideal : u.Ideal
  home : u.home = t.home
  same : ∀ q, Kept made t u q

section Grown

variable {made : List (List String)} {t u v : FileTree} {q : List String}

theorem Grown.refl (ideal : t.Ideal) : Grown made t t := ⟨ideal, rfl, fun _ => Or.inl rfl⟩

theorem Grown.free (grown : Grown made t u) (free : u.entry? q = none) : t.entry? q = none := by
  rcases grown.same q with same | ⟨before, -, -⟩
  · rw [← same, free]
  · exact before

theorem Grown.found {e : Entry} (grown : Grown made t u) (here : t.entry? q = some e) : u.entry? q = some e := by
  rcases grown.same q with same | ⟨free, -, -⟩
  · rw [same, here]
  · rw [here] at free
    cases free

theorem Grown.trans (first : Grown made t u) (second : Grown made u v) : Grown made t v := by
  refine ⟨second.ideal, second.home.trans first.home, fun q => ?_⟩
  rcases first.same q with same | ⟨free, here, on⟩
  · rw [Kept, ← same]
    exact second.same q
  · exact Or.inr ⟨free, second.found here, on⟩

theorem Grown.put (ideal : t.Ideal) (free : t.entry? q = none) (above : t.entry? q.dropLast = some .folder)
    (on : q ∈ made) : Grown made t (t.put q .folder) := by
  have inner := inner_of_entry (free ▸ by simp : t.entry? q ≠ some .folder)
  refine ⟨ideal.put inner above fun _ => rfl, t.home_put _ _, fun x => ?_⟩
  rw [Kept, entry_put inner]
  by_cases here : x = q
  · rw [if_pos here, here]
    exact Or.inr ⟨free, rfl, on⟩
  · rw [if_neg here]
    exact Or.inl rfl

end Grown

section MakeFolders

variable {t u : FileTree} (ideal : t.Ideal) {parts : List String}

include ideal

theorem entry_step_back {place : List String} (here : t.entry? place = some .folder) :
    t.entry? (step place "..") = some .folder := by
  cases outer : isOuter place with
  | true =>
    rw [step, if_pos (beq_self_eq_true _), if_pos outer]
    refine entry_outer ?_
    rw [isOuter_append, outer]
    rfl
  | false =>
    rw [step_back outer]
    exact ideal.toSound.folder_above here

theorem folder_above_follow (folders : ∀ x ∈ way [] parts, t.entry? x = some .folder)
    (free : t.entry? (follow [] parts) = none) : t.entry? (follow [] parts).dropLast = some .folder := by
  cases parts using List.reverseRecOn with
  | nil => cases free
  | append_singleton before name =>
    have parent := folders (follow [] before) (way_concat ▸ List.mem_append_right _ List.mem_cons_self)
    have last : follow [] (before ++ [name]) = step (follow [] before) name := follow_append
    rw [last] at free ⊢
    by_cases back : name = ".."
    · rw [back, entry_step_back ideal parent] at free
      cases free
    · rw [step_plain back, List.dropLast_concat]
      exact parent

theorem makeFolder_ok {made : List (List String)} (on : follow [] parts ∈ made) (done : t.makeFolder parts = .ok u) :
    Grown made t u ∧ (∀ x ∈ way [] parts, t.entry? x = some .folder) ∧ u.entry? (follow [] parts) = some .folder := by
  unfold makeFolder at done
  split at done
  · cases done
  · obtain ⟨place, led, done⟩ := bind_ok done
    obtain ⟨parent, -, done⟩ := bind_ok done
    obtain ⟨rfl, folders⟩ := (walk_ok ideal).mp led
    split at done
    · cases done
    · cases done
    · split at done
      · rename_i here
        cases done
        exact ⟨.refl ideal, folders, here⟩
      · cases done
      · rename_i free
        cases done
        refine ⟨.put ideal free (folder_above_follow ideal folders free) on, folders, ?_⟩
        have inner := inner_of_entry (free ▸ by simp : t.entry? (follow [] parts) ≠ some .folder)
        rw [entry_put inner, if_pos rfl]

theorem makeFolder_done (noZero : parts.any hasZero = false) (folders : ∀ x ∈ way [] parts, t.entry? x = some .folder)
    (clear : t.entry? (follow [] parts) = none ∨ t.entry? (follow [] parts) = some .folder) :
    ∃ u, t.makeFolder parts = .ok u := by
  have led := (walk_ok ideal).mpr ⟨rfl, folders⟩
  obtain ⟨parent, led', above⟩ : ∃ parent, t.walk [] parts.dropLast = .ok parent ∧ t.entry? parent = some .folder := by
    cases parts using List.reverseRecOn with
    | nil => exact ⟨[], rfl, rfl⟩
    | append_singleton before name =>
      rw [way_concat] at folders
      rw [List.dropLast_concat]
      refine ⟨follow [] before, (walk_ok ideal).mpr ⟨rfl, fun x on => folders x (List.mem_append_left _ on)⟩, ?_⟩
      exact folders _ (List.mem_append_right _ List.mem_cons_self)
  rw [makeFolder, noZero]
  simp only [led, led', Bind.bind, Except.bind, above, Bool.false_eq_true, if_false]
  rcases clear with free | here
  · simp only [free]
    exact ⟨_, rfl⟩
  · simp only [here]
    exact ⟨_, rfl⟩

/-- Where nothing stands in the way, a folder is not made only for want of those above it. -/
theorem makeFolder_blocked (noZero : parts.any hasZero = false)
    (clear : ∀ x ∈ way [] parts, t.entry? x = none ∨ t.entry? x = some .folder)
    (last : t.entry? (follow [] parts) = none ∨ t.entry? (follow [] parts) = some .folder) {e : FileError}
    (failed : t.makeFolder parts = .error e) : e = .missing := by
  cases led : t.walk [] parts with
  | ok q =>
    obtain ⟨u, done⟩ := makeFolder_done ideal noZero ((walk_ok ideal).mp led).2 last
    rw [done] at failed
    cases failed
  | error e' =>
    rw [makeFolder, noZero, led] at failed
    cases failed
    exact walk_missing ideal clear led

omit ideal in
theorem makeFolder_zero (failed : t.makeFolder parts = .error .zeroByte) : parts.any hasZero = true := by
  unfold makeFolder at failed
  split at failed
  · assumption
  · rcases bind_error failed with first | ⟨place, -, failed⟩
    · exact absurd rfl (walk_error first)
    · rcases bind_error failed with second | ⟨parent, -, failed⟩
      · exact absurd rfl (walk_error second)
      · split at failed
        · cases failed
        · cases failed
        · split at failed <;> cases failed

theorem attempt_makeFolder {made : List (List String)} {p : Path} {outcome : Except FileFailure Unit}
    (on : follow [] parts ∈ made) (run : t.attempt p (t.makeFolder parts) = (u, outcome)) : Grown made t u ∧
      (outcome = .ok () → (∀ x ∈ way [] parts, u.entry? x = some .folder) ∧ u.entry? (follow [] parts) = some .folder) ∧
      (∀ f, outcome = .error f → f.error = .zeroByte → parts.any hasZero = true) := by
  cases one : t.makeFolder parts with
  | ok v =>
    rw [one] at run
    cases run
    obtain ⟨grown, folders, here⟩ := makeFolder_ok ideal on one
    exact ⟨grown, fun _ => ⟨fun x member => grown.found (folders x member), here⟩, nofun⟩
  | error e =>
    rw [one] at run
    cases run
    refine ⟨.refl ideal, nofun, fun f failed zero => ?_⟩
    cases failed
    cases zero
    exact makeFolder_zero one

/-- All folders along the first parts are there once they are made, and a failure leaves those that were made. -/
theorem makeFoldersUpTo_grown {root : Path} {n : Nat} {outcome : Except FileFailure Unit}
    (run : t.makeFoldersUpTo root parts n = (u, outcome)) : Grown (way [] parts ++ [follow [] parts]) t u ∧
      (outcome = .ok () → (∀ x ∈ way [] (parts.take n), u.entry? x = some .folder) ∧
        u.entry? (follow [] (parts.take n)) = some .folder) ∧
      (∀ f, outcome = .error f → f.error = .zeroByte → parts.any hasZero = true) := by
  induction n generalizing u outcome with
  | zero =>
    cases run
    exact ⟨.refl ideal, fun _ => ⟨nofun, rfl⟩, nofun⟩
  | succ n ih =>
    have on : follow [] (parts.take (n + 1)) ∈ way [] parts ++ [follow [] parts] := follow_take_mem
    rw [makeFoldersUpTo] at run
    split at run
    case h_1 missing =>
      cases before : t.makeFoldersUpTo root parts n with
      | mk v earlier =>
        obtain ⟨grown, made, zero⟩ := ih before
        rw [before] at run
        cases earlier with
        | error f =>
          cases run
          exact ⟨grown, nofun, zero⟩
        | ok _ =>
          obtain ⟨grown', made', zero⟩ := attempt_makeFolder grown.ideal on run
          exact ⟨grown.trans grown', made', fun f failed bad => zero_of_subset (List.take_subset _ _) (zero f failed bad)⟩
    case h_2 =>
      obtain ⟨grown, made, zero⟩ := attempt_makeFolder ideal on run
      exact ⟨grown, made, fun f failed bad => zero_of_subset (List.take_subset _ _) (zero f failed bad)⟩

theorem makeFoldersUpTo_done {root : Path} {n : Nat} (bound : n ≤ parts.length) (noZero : parts.any hasZero = false)
    (clear : ∀ x ∈ way [] parts ++ [follow [] parts], t.entry? x = none ∨ t.entry? x = some .folder) :
    ∃ u, t.makeFoldersUpTo root parts n = (u, .ok ()) := by
  induction n with
  | zero => exact ⟨t, rfl⟩
  | succ n ih =>
    have noZero' : (parts.take (n + 1)).any hasZero = false := noZero_of_subset (List.take_subset _ _) noZero
    have next : parts.take (n + 1) = parts.take n ++ [parts[n]] := List.take_succ_eq_append_getElem bound
    have last : t.entry? (follow [] (parts.take (n + 1))) = none ∨
        t.entry? (follow [] (parts.take (n + 1))) = some .folder := clear _ follow_take_mem
    rw [makeFoldersUpTo]
    split
    case h_1 =>
      obtain ⟨v, before⟩ := ih (by omega)
      obtain ⟨grown, made, -⟩ := makeFoldersUpTo_grown ideal before
      obtain ⟨folders, here⟩ := made rfl
      have folders' : ∀ x ∈ way [] (parts.take (n + 1)), v.entry? x = some .folder := by
        rw [next, way_concat]
        exact List.forall_mem_append.mpr ⟨folders, List.forall_mem_singleton.mpr here⟩
      have last' : v.entry? (follow [] (parts.take (n + 1))) = none ∨
          v.entry? (follow [] (parts.take (n + 1))) = some .folder := by
        rcases grown.same (follow [] (parts.take (n + 1))) with same | ⟨-, here, -⟩
        · exact same ▸ last
        · exact Or.inr here
      obtain ⟨u, one⟩ := makeFolder_done grown.ideal noZero' folders' last'
      exact ⟨u, by simp only [before, one, attempt]⟩
    case h_2 other =>
      have clear' : ∀ x ∈ way [] (parts.take (n + 1)), t.entry? x = none ∨ t.entry? x = some .folder := fun x on =>
        clear x (List.mem_append_left _ (way_take_subset on))
      cases one : t.makeFolder (parts.take (n + 1)) with
      | ok u => exact ⟨u, rfl⟩
      | error e => exact absurd (makeFolder_blocked ideal noZero' clear' last one ▸ one) other

theorem makeFolders_done {p : Path} {names : List String} (known : t.below? p = some names)
    (noZero : p.parts.any hasZero = false)
    (clear : ∀ x ∈ way [] names ++ [follow [] names], t.entry? x = none ∨ t.entry? x = some .folder) :
    ∃ u, t.makeFolders p = (u, .ok ()) := by
  have noZero' : names.any hasZero = false := noZero_of_subset (below?_subset ideal known) noZero
  simp only [makeFolders, noZero, known, Bool.false_eq_true, if_false]
  exact makeFoldersUpTo_done ideal (Nat.le_refl _) noZero' clear

section Path

variable {p : Path} {outcome : Except FileFailure Unit} (run : t.makeFolders p = (u, outcome))

include run

theorem makeFolders_grown {names : List String} (known : t.below? p = some names) :
    Grown (way [] names ++ [follow [] names]) t u ∧
      (outcome = .ok () → u.place p = .ok (follow [] names) ∧ u.entry? (follow [] names) = some .folder) := by
  rw [makeFolders] at run
  split at run
  · cases run
    exact ⟨.refl ideal, nofun⟩
  · rename_i plain
    simp only [known] at run
    obtain ⟨grown, made, -⟩ := makeFoldersUpTo_grown ideal run
    refine ⟨grown, fun done => ?_⟩
    obtain ⟨folders, here⟩ := made done
    rw [List.take_length] at folders here
    have known' : u.below? p = some names := by rwa [below?, grown.home]
    exact ⟨(place_ok grown.ideal).mpr ⟨Bool.not_eq_true _ ▸ plain, names, known', rfl, folders⟩, here⟩

end Path

end MakeFolders

end FileTree
end FilterGraph
