import FilterGraph.Proofs.Files.Filling
import FilterGraph.Proofs.Text.Paths

namespace FilterGraph

namespace Path

def names (path : String) : List String := (ofText path).parts

theorem child_of_relative {p : Path} {path : String} (relative : (ofText path).absolute = false) :
    p.child path = p.below (names path) := by
  rw [child, join, relative]
  rfl

theorem parent_below_concat {p : Path} {before : List String} {name : String} :
    (p.below (before ++ [name])).parent = p.below before := by
  simp only [parent, below, ← List.append_assoc, List.dropLast_concat]

end Path

/-- The data files of an export lie in folders below that of the script, and none is in the way of another. -/
structure Placed (files : Entries String String) : Prop where
  relative : ∀ f ∈ files, (Path.ofText f.1).absolute = false
  deep : ∀ f ∈ files, 1 < (Path.names f.1).length
  plain : ∀ f ∈ files, ".." ∉ Path.names f.1
  apart : files.Pairwise fun a b => ¬ Path.names a.1 <+: Path.names b.1 ∧ ¬ Path.names b.1 <+: Path.names a.1

theorem Placed.cons {path content : String} {files : Entries String String} (placed : Placed ((path, content) :: files)) :
    (Path.ofText path).absolute = false ∧ 1 < (Path.names path).length ∧ ".." ∉ Path.names path ∧
      (∀ f ∈ files, ¬ Path.names path <+: Path.names f.1 ∧ ¬ Path.names f.1 <+: Path.names path) ∧ Placed files := by
  obtain ⟨relative, relative'⟩ := List.forall_mem_cons.mp placed.relative
  obtain ⟨deep, deep'⟩ := List.forall_mem_cons.mp placed.deep
  obtain ⟨plain, plain'⟩ := List.forall_mem_cons.mp placed.plain
  obtain ⟨apart, apart'⟩ := List.pairwise_cons.mp placed.apart
  exact ⟨relative, deep, plain, apart, relative', deep', plain', apart'⟩

def dataLayout (files : Entries String String) (place : List String) : Option Entry :=
  match files.find? fun f => Path.names f.1 == place with
  | some f => some (.file (Utf8.encode f.2) false)
  | none => if files.any fun f => place.isPrefixOf (Path.names f.1) then some .folder else none

/-- What is at a place in an export, seen from its folder. -/
def Artifact.layout (a : Artifact) (place : List String) : Option Entry :=
  if place = [] then some .folder
  else if place = [a.entryPoint] then some (.file (Utf8.encode a.script) true)
  else dataLayout a.files place

section DataLayout

variable {place : List String}

theorem dataLayout_cons {f : String × String} {rest : Entries String String} :
    dataLayout (f :: rest) place = if place = Path.names f.1 then some (.file (Utf8.encode f.2) false)
      else (dataLayout rest place).or (if place <+: Path.names f.1 then some .folder else none) := by
  rw [dataLayout, List.find?_cons]
  by_cases same : place = Path.names f.1
  · rw [if_pos same, beq_iff_eq.mpr same.symm]
  · rw [if_neg same, beq_false_of_ne (Ne.symm same), dataLayout]
    cases rest.find? fun f => Path.names f.1 == place with
    | some found => rfl
    | none =>
      simp only [List.any_cons, Bool.or_eq_true, List.isPrefixOf_iff_prefix]
      by_cases above : place <+: Path.names f.1
      · rw [if_pos (Or.inl above), if_pos above]
        split <;> rfl
      · simp only [above, false_or, if_false]
        split <;> rfl

theorem dataLayout_apart {files : Entries String String} (apart : ∀ f ∈ files, ¬ place <+: Path.names f.1) : dataLayout files place = none := by
  have missing : files.find? (fun f => Path.names f.1 == place) = none := by
    refine List.find?_eq_none.mpr fun f member same => apart f member ?_
    rw [eq_of_beq same]
  rw [dataLayout, missing, if_neg]
  intro above
  obtain ⟨f, member, leads⟩ := List.any_eq_true.mp above
  exact apart f member (List.isPrefixOf_iff_prefix.mp leads)

theorem dataLayout_file {files : Entries String String} (placed : Placed files) {f : String × String} (member : f ∈ files) :
    dataLayout files (Path.names f.1) = some (.file (Utf8.encode f.2) false) := by
  induction files with
  | nil => cases member
  | cons first rest ih =>
    obtain ⟨-, relative⟩ := List.forall_mem_cons.mp placed.relative
    obtain ⟨-, deep⟩ := List.forall_mem_cons.mp placed.deep
    obtain ⟨-, plain⟩ := List.forall_mem_cons.mp placed.plain
    obtain ⟨apart, apart'⟩ := List.pairwise_cons.mp placed.apart
    rw [dataLayout_cons]
    rcases List.mem_cons.mp member with rfl | later
    · rw [if_pos rfl]
    · have other : Path.names f.1 ≠ Path.names first.1 := fun same => (apart f later).2 (by rw [same])
      rw [if_neg other, ih ⟨relative, deep, plain, apart'⟩ later, Option.some_or]

end DataLayout

theorem Artifact.layout_file {a : Artifact} (placed : Placed a.files) {f : String × String} (member : f ∈ a.files) :
    a.layout (Path.names f.1) = some (.file (Utf8.encode f.2) false) := by
  have deep := placed.deep f member
  have some : Path.names f.1 ≠ [] := fun same => by simp [same] at deep
  have other : Path.names f.1 ≠ [a.entryPoint] := fun same => by simp [same] at deep
  rw [Artifact.layout, if_neg some, if_neg other, dataLayout_file placed member]

namespace FileTree

variable {t u : FileTree} {p : Path} {folder : List String} {outcome : Except FileFailure Unit}

section Deep

variable (ideal : t.Ideal) (led : t.place p = .ok folder) (here : t.entry? folder = some .folder)

include ideal led here

/-- A data file is written with the folders on the way to it, or some of these are made. -/
theorem writeDeep_filled {path content : String} (relative : (Path.ofText path).absolute = false)
    (deep : 1 < (Path.names path).length) (plain : ".." ∉ Path.names path)
    (run : t.writeDeep (p.child path) content = (u, outcome)) : Filled folder t u ∧
      (outcome = .ok () → t.entry? (folder ++ Path.names path) = none → ∀ rest, u.entry? (folder ++ rest) =
        if rest = Path.names path then some (.file (Utf8.encode content) false)
        else if rest <+: Path.names path then some .folder else t.entry? (folder ++ rest)) := by
  rw [Path.child_of_relative relative, writeDeep] at run
  generalize Path.names path = names at *
  obtain ⟨before, name, rfl⟩ := (List.eq_nil_or_concat' names).resolve_left fun none => by simp [none] at deep
  have plain' : ".." ∉ before := fun back => plain (List.mem_append_left _ back)
  rw [Path.parent_below_concat] at run
  cases made : t.makeFolders (p.below before) with
  | mk v earlier =>
    obtain ⟨filled, done⟩ := makeFolders_below ideal led here plain' made
    rw [made] at run
    cases earlier with
    | error e =>
      cases run
      exact ⟨filled, fun done => by cases done⟩
    | ok _ =>
      obtain ⟨-, folders⟩ := done rfl
      simp only [attempt] at run
      cases written : v.write (p.below (before ++ [name])) (Utf8.encode content) with
      | error e =>
        simp only [written] at run
        cases run
        exact ⟨filled, fun done => by cases done⟩
      | ok w =>
        simp only [written] at run
        cases run
        obtain ⟨q, led', other, above, executable, fresh, rfl⟩ := write_ok filled.ideal written
        have there := ((place_below filled.ideal (filled.place ideal led) plain).mp led').2.1
        subst there
        refine ⟨filled.trans (.put filled.ideal ⟨_, rfl, plain⟩ above other), fun _ free rest => ?_⟩
        -- the folders made lead to the file and are all shorter, so its own place is still free
        have notAbove : ¬ before ++ [name] <+: before := by
          intro above
          have shorter := above.length_le
          rw [List.length_append, List.length_singleton] at shorter
          omega
        have free' : v.entry? (folder ++ (before ++ [name])) = none := by
          rw [folders, if_neg notAbove, free]
        rw [entry_put (inner_of_entry other), fresh free', folders]
        simp only [List.append_cancel_left_eq, List.prefix_concat_iff]
        by_cases same : rest = before ++ [name]
        · rw [if_pos same, if_pos same]
        · simp only [same, false_or, if_false]

theorem writeFiles_filled {files : Entries String String} (placed : Placed files)
    (run : t.writeFiles p files = (u, outcome)) : Filled folder t u ∧
      (outcome = .ok () → (∀ f ∈ files, t.entry? (folder ++ Path.names f.1) = none) → ∀ rest,
        u.entry? (folder ++ rest) = (dataLayout files rest).or (t.entry? (folder ++ rest))) := by
  induction files generalizing t with
  | nil =>
    cases run
    exact ⟨.refl ideal, fun _ _ rest => rfl⟩
  | cons f files ih =>
    obtain ⟨path, content⟩ := f
    obtain ⟨relative, deep, plain, apart, placed'⟩ := placed.cons
    rw [writeFiles] at run
    cases first : t.writeDeep (p.child path) content with
    | mk v earlier =>
      obtain ⟨filled, one⟩ := writeDeep_filled ideal led here relative deep plain first
      simp only [first] at run
      cases earlier with
      | error e =>
        cases run
        exact ⟨filled, nofun⟩
      | ok _ =>
        obtain ⟨filled', others⟩ :=
          ih filled.ideal (filled.place ideal led) (filled.folders here) placed' run
        refine ⟨filled.trans filled', fun done free rest => ?_⟩
        obtain ⟨free, free'⟩ := List.forall_mem_cons.mp free
        have written := one rfl free
        have still : ∀ f ∈ files, v.entry? (folder ++ Path.names f.1) = none := by
          intro f member
          obtain ⟨left, right⟩ := apart f member
          have other : Path.names f.1 ≠ Path.names path := fun same => right (by rw [same])
          rw [written, if_neg other, if_neg right, free' f member]
        rw [others done still, written, dataLayout_cons]
        by_cases same : rest = Path.names path
        · subst same
          rw [if_pos rfl, if_pos rfl, dataLayout_apart fun f member => (apart f member).1]
          rfl
        · rw [if_neg same, if_neg same, Option.or_assoc]
          split <;> rfl

omit ideal led here in
theorem child_name {name : String} (filled : name ≠ "") (single : '/' ∉ name.toList) :
    p.child name = p.below ([name].filter fun name => name != ".") := by
  have spelt : name.toList = ['/'].intercalate ([name].map String.toList) := by simp [List.intercalate]
  rw [Path.child, Path.join, Path.ofText_names spelt (by simp) (by simp [filled, single])]
  rfl

theorem write_name_ok {name : String} {bytes : List UInt8} (filled : name ≠ "") (single : '/' ∉ name.toList)
    (done : t.write (p.child name) bytes = .ok u) :
    name ≠ "." ∧ name ≠ ".." ∧ hasZero name = false ∧ t.place (p.below [name]) = .ok (folder ++ [name]) := by
  obtain ⟨q, led', other, -⟩ := write_ok ideal done
  rw [child_name filled single] at led'
  by_cases dot : name = "."
  · have same : p.below ([name].filter fun name => name != ".") = p := by simp [dot, Path.below]
    rw [same, led] at led'
    cases led'
    exact absurd here other
  · have kept : [name].filter (fun name => name != ".") = [name] := by simp [dot]
    rw [kept] at led'
    by_cases back : name = ".."
    · obtain ⟨-, names, known, rfl, -⟩ := (place_ok ideal).mp led
      obtain ⟨-, more, known', rfl, -⟩ := (place_ok ideal).mp led'
      rw [below?_append ideal known] at known'
      cases known'
      rw [back, follow_append] at other
      exact absurd (entry_step_back ideal here) other
    · obtain ⟨noZero, rfl, -⟩ := (place_below ideal led (by simpa [eq_comm] using back)).mp led'
      exact ⟨dot, back, by simpa using noZero, led'⟩

theorem writeScript_filled {name : String} {bytes : List UInt8} (filled : name ≠ "") (single : '/' ∉ name.toList)
    (done : (t.write (p.child name) bytes >>= fun v => v.makeExecutable (p.child name)) = .ok u) :
    Filled folder t u ∧ (name ≠ "." ∧ name ≠ ".." ∧ hasZero name = false) ∧
      ∀ q, u.entry? q = if q = folder ++ [name] then some (.file bytes true) else t.entry? q := by
  obtain ⟨v, written, done⟩ := bind_ok done
  obtain ⟨dot, plain, noZero, there⟩ := write_name_ok ideal led here filled single written
  have child : p.child name = p.below [name] := by
    rw [child_name filled single]
    simp [dot]
  obtain ⟨q, led', other, above, executable, -, rfl⟩ := write_ok ideal written
  rw [child, there] at led'
  cases led'
  have inner := inner_of_entry other
  have more : Filled folder t (t.put (folder ++ [name]) (.file bytes executable)) :=
    .put ideal ⟨_, rfl, by simpa [eq_comm] using plain⟩ above other
  obtain ⟨q, known, was, led'', found, rfl⟩ := makeExecutable_ok done
  rw [child, more.place ideal there] at led''
  cases led''
  rw [entry_put inner, if_pos rfl] at found
  cases found
  have other' : FileTree.entry? (t.put (folder ++ [name]) (.file bytes executable)) (folder ++ [name]) ≠ some .folder := by
    rw [entry_put inner, if_pos rfl]
    simp
  have above' := more.folders above
  refine ⟨more.trans (.put more.ideal ⟨_, rfl, by simpa [eq_comm] using plain⟩ above' other'), ⟨dot, plain, noZero⟩, fun q => ?_⟩
  rw [entry_put inner, entry_put inner]
  split <;> rfl

theorem writeInto_filled {a : Artifact} (named : a.entryPoint ≠ "" ∧ '/' ∉ a.entryPoint.toList) (placed : Placed a.files)
    (run : a.writeInto t p = (u, outcome)) : Filled folder t u ∧
      (outcome = .ok () → (∀ rest, rest ≠ [] → ".." ∉ rest → t.entry? (folder ++ rest) = none) →
        ∀ rest, ".." ∉ rest → u.entry? (folder ++ rest) = a.layout rest) := by
  simp only [Artifact.writeInto] at run
  cases script : t.write (p.child a.entryPoint) (Utf8.encode a.script) >>= fun v => v.makeExecutable (p.child a.entryPoint) with
  | error e =>
    simp only [script, attempt] at run
    cases run
    exact ⟨.refl ideal, fun done => by cases done⟩
  | ok v =>
    simp only [script, attempt] at run
    obtain ⟨filled, plain, known⟩ := writeScript_filled ideal led here named.1 named.2 script
    obtain ⟨filled', contents⟩ :=
      writeFiles_filled filled.ideal (filled.place ideal led) (filled.folders here) placed run
    refine ⟨filled.trans filled', fun done nothing rest inside => ?_⟩
    have free : ∀ f ∈ a.files, v.entry? (folder ++ Path.names f.1) = none := by
      intro f member
      have deep := placed.deep f member
      have other : Path.names f.1 ≠ [a.entryPoint] := fun same => by simp [same] at deep
      have some : Path.names f.1 ≠ [] := fun same => by simp [same] at deep
      rw [known, if_neg (mt List.append_cancel_left other), nothing _ some (placed.plain f member)]
    have found := contents done free rest
    simp only [known, List.append_cancel_left_eq] at found
    rw [Artifact.layout]
    by_cases top : rest = []
    · rw [if_pos top, top, List.append_nil]
      exact (filled.trans filled').folders here
    · rw [if_neg top]
      by_cases entry : rest = [a.entryPoint]
      · rw [if_pos entry] at found ⊢
        have script : v.entry? (folder ++ rest) = some (.file (Utf8.encode a.script) true) := by
          rw [known, if_pos (congrArg _ entry)]
        have kind := (filled'.kinds (folder ++ rest)).resolve_left (by simp [script])
        have missing : a.files.find? (fun f => Path.names f.1 == rest) = none := by
          refine List.find?_eq_none.mpr fun f member same => ?_
          have deep := placed.deep f member
          rw [eq_of_beq same, entry, List.length_singleton] at deep
          omega
        have laid : dataLayout a.files rest = none ∨ dataLayout a.files rest = some .folder := by
          simp only [dataLayout, missing]
          split
          · exact Or.inr rfl
          · exact Or.inl rfl
        -- a folder of that name was not made, for the script is there
        rcases laid with none | onTheWay
        · rw [found, none, Option.none_or]
        · rw [onTheWay, Option.some_or] at found
          rw [script, found] at kind
          cases kind
      · rw [if_neg entry] at found ⊢
        rw [found, nothing rest top inside, Option.or_none]

end Deep

end FileTree
end FilterGraph
