import FilterGraph.Proofs.Export.Atomic

namespace FilterGraph

section Paths

/-- Paths that can be side by side in a folder: no two are the same, none leads over another one, and none has dots. -/
structure LaidOut (paths : List String) : Prop where
  distinct : paths.Nodup
  apart : ∀ p ∈ paths, ∀ q ∈ paths, Path.components p <+: Path.components q → p = q
  plain : ∀ p ∈ paths, "." ∉ Path.components p ∧ ".." ∉ Path.components p

def Artifact.paths (a : Artifact) : List String := a.entryPoint :: a.files.map (·.1)

variable {entry folder : String} {files : Entries String String}

/-- The script is in the way of data files only where it has the name of their folder. -/
theorem entry_apart_iff (each : ∀ f ∈ files, ∃ node name, IsDataPath folder node name f.1) :
    (∀ f ∈ files, ¬ [entry] <+: Path.names f.1) ↔ (entry = folder → files = []) := by
  have leads (f : String × String) (member : f ∈ files) : [entry] <+: Path.names f.1 ↔ entry = folder := by
    obtain ⟨node, name, data⟩ := each f member
    rw [data.names, List.cons_prefix_cons]
    exact and_iff_left (List.nil_prefix)
  constructor
  · intro clear same
    exact List.eq_nil_iff_forall_not_mem.mpr fun f member => clear f member ((leads f member).mpr same)
  · intro clear f member above
    rw [clear ((leads f member).mp above)] at member
    cases member

variable (distinct : (files.map (·.1)).Nodup) (each : ∀ f ∈ files, ∃ node name, IsDataPath folder node name f.1)

include distinct each

theorem laidOut_files : LaidOut (files.map (·.1)) := by
  have data : ∀ p ∈ files.map (·.1), ∃ node name, IsDataPath folder node name p := List.forall_mem_map.mpr each
  refine ⟨distinct, fun p left q right above => ?_, fun p member => ?_⟩
  · obtain ⟨node, name, here⟩ := data p left
    obtain ⟨node', name', there⟩ := data q right
    exact here.unique there above
  · obtain ⟨node, name, here⟩ := data p member
    rw [here.components]
    exact ⟨fun dot => (here.named _ dot).2.2.1 rfl, fun dots => (here.named _ dots).2.2.2.1 rfl⟩

theorem laidOut_iff (single : '/' ∉ entry.toList) : LaidOut (entry :: files.map (·.1)) ↔
    (entry ≠ "." ∧ entry ≠ "..") ∧ (entry = folder → files = []) := by
  have alone : Path.components entry = [entry] :=
    Path.components_names (by simp [List.intercalate]) (List.cons_ne_nil _ _) (List.forall_mem_singleton.mpr single)
  -- a data path is no less deep than the script, and both ways of reading it agree
  have data : ∀ f ∈ files, Path.components f.1 = Path.names f.1 ∧ (Path.names f.1).length = 3 := by
    intro f member
    obtain ⟨node, name, here⟩ := each f member
    rw [here.components, here.names]
    exact ⟨rfl, rfl⟩
  rw [← entry_apart_iff each]
  constructor
  · intro laid
    obtain ⟨dot, dots⟩ := laid.plain entry List.mem_cons_self
    rw [alone] at dot dots
    refine ⟨⟨fun same => dot (same ▸ List.mem_cons_self), fun same => dots (same ▸ List.mem_cons_self)⟩, fun f member above => ?_⟩
    obtain ⟨names, deep⟩ := data f member
    have one := laid.apart entry List.mem_cons_self f.1 (List.mem_cons_of_mem _ (List.mem_map_of_mem member))
      (by rw [alone, names]; exact above)
    rw [← names, ← one, alone] at deep
    cases deep
  · rintro ⟨⟨dot, dots⟩, clear⟩
    obtain ⟨-, apart, plain⟩ := laidOut_files distinct each
    have below : ∀ p ∈ files.map (·.1), ¬ Path.components entry <+: Path.components p := by
      refine List.forall_mem_map.mpr fun f member => ?_
      rw [alone, (data f member).1]
      exact clear f member
    have above : ∀ p ∈ files.map (·.1), ¬ Path.components p <+: Path.components entry := by
      refine List.forall_mem_map.mpr fun f member leads => ?_
      have shorter := leads.length_le
      rw [alone, (data f member).1, (data f member).2, List.length_singleton] at shorter
      omega
    constructor
    case distinct => exact List.nodup_cons.mpr ⟨fun member => below _ member List.prefix_rfl, distinct⟩
    case apart =>
      intro p left q right leads
      rcases List.mem_cons.mp left with rfl | first
      · rcases List.mem_cons.mp right with rfl | second
        · rfl
        · exact absurd leads (below _ second)
      · rcases List.mem_cons.mp right with rfl | second
        · exact absurd leads (above _ first)
        · exact apart p first q second leads
    case plain =>
      refine List.forall_mem_cons.mpr ⟨?_, plain⟩
      rw [alone]
      exact ⟨fun same => dot (List.mem_singleton.mp same).symm, fun same => dots (List.mem_singleton.mp same).symm⟩

end Paths

namespace FileTree

variable {t u : FileTree} {p : Path} {folder : List String}

structure Vacant (t : FileTree) (folder names : List String) : Prop where
  free : t.entry? (folder ++ names) = none
  clear : ∀ on, on <+: names → t.entry? (folder ++ on) = none ∨ t.entry? (folder ++ on) = some .folder

section Written

variable (ideal : t.Ideal) (led : t.place p = .ok folder) (here : t.entry? folder = some .folder)

include ideal led here

theorem writeDeep_done {path content : String} (relative : (Path.ofText path).absolute = false)
    (deep : 1 < (Path.names path).length) (plain : ".." ∉ Path.names path) (noZero : (Path.names path).any hasZero = false)
    (vacant : Vacant t folder (Path.names path)) : ∃ u, t.writeDeep (p.child path) content = (u, .ok ()) := by
  rw [Path.child_of_relative relative, writeDeep]
  generalize Path.names path = names at *
  obtain ⟨before, name, rfl⟩ := (List.eq_nil_or_concat' names).resolve_left fun none => by simp [none] at deep
  have plain' : ".." ∉ before := fun back => plain (List.mem_append_left _ back)
  have noZero' : before.any hasZero = false := noZero_of_subset (List.subset_append_left _ _) noZero
  obtain ⟨v, made⟩ := makeFolders_below_done ideal led plain' noZero' fun on above =>
    vacant.clear on (above.trans (List.prefix_append _ _))
  obtain ⟨filled, done⟩ := makeFolders_below ideal led here plain' made
  obtain ⟨-, folders⟩ := done rfl
  have led' : v.place (p.below (before ++ [name])) = .ok (folder ++ (before ++ [name])) := by
    refine (place_below filled.ideal (filled.place ideal led) plain).mpr ⟨noZero, rfl, fun on above differ => ?_⟩
    rw [folders, if_pos ((List.prefix_concat_iff.mp above).resolve_left differ)]
  have free : v.entry? (folder ++ (before ++ [name])) = none := by
    have longer : ¬ before ++ [name] <+: before := not_concat_over
    rw [folders, if_neg longer, vacant.free]
  have above : v.entry? (folder ++ (before ++ [name])).dropLast = some .folder := by
    rw [← List.append_assoc, List.dropLast_concat, folders, if_pos List.prefix_rfl]
  rw [Path.parent_below_concat, made]
  simp only [attempt, write_done led' free above]
  exact ⟨_, rfl⟩

theorem writeFiles_done {files : Entries String String} (placed : Placed files)
    (noZero : ∀ f ∈ files, (Path.names f.1).any hasZero = false)
    (vacant : ∀ f ∈ files, Vacant t folder (Path.names f.1)) : ∃ u, t.writeFiles p files = (u, .ok ()) := by
  induction files generalizing t with
  | nil => exact ⟨t, rfl⟩
  | cons f files ih =>
    obtain ⟨path, content⟩ := f
    obtain ⟨relative, deep, plain, apart, placed'⟩ := placed.cons
    obtain ⟨noZero, noZero'⟩ := List.forall_mem_cons.mp noZero
    obtain ⟨first, later⟩ := List.forall_mem_cons.mp vacant
    obtain ⟨v, written⟩ : ∃ v, t.writeDeep (p.child path) content = (v, .ok ()) :=
      writeDeep_done ideal led here relative deep plain noZero first
    obtain ⟨filled, one⟩ := writeDeep_filled ideal led here relative deep plain written
    have known := one rfl first.free
    -- what was written is on the way to none of the others, and only folders were made besides
    have still : ∀ f ∈ files, Vacant v folder (Path.names f.1) := by
      intro f member
      obtain ⟨left, right⟩ := apart f member
      obtain ⟨free, clear⟩ := later f member
      refine ⟨?_, fun on above => ?_⟩
      · have other : Path.names f.1 ≠ Path.names path := fun same => right (same ▸ List.prefix_rfl)
        rw [known, if_neg other, if_neg right, free]
      · have other : on ≠ Path.names path := fun same => left (same ▸ above)
        rw [known, if_neg other]
        split
        · exact Or.inr rfl
        · exact clear on above
    obtain ⟨u, rest⟩ := ih filled.ideal (filled.place ideal led) (filled.folders here) placed' noZero' still
    exact ⟨u, by simp only [writeFiles, written, rest]⟩

theorem writeScript_done {name : String} (filled : name ≠ "") (single : '/' ∉ name.toList) (dot : name ≠ ".")
    (dots : name ≠ "..") (noZero : hasZero name = false) (free : t.entry? (folder ++ [name]) = none) (bytes : List UInt8) :
    ∃ u, (t.write (p.child name) bytes >>= fun v => v.makeExecutable (p.child name)) = .ok u := by
  have child : p.child name = p.below [name] := by
    rw [child_name filled single]
    simp [dot]
  have plain : ".." ∉ [name] := by simpa [eq_comm] using dots
  have led' : t.place (p.below [name]) = .ok (folder ++ [name]) := by
    refine (place_below ideal led plain).mpr ⟨by simpa using noZero, rfl, fun on above differ => ?_⟩
    have top : on <+: [] := (List.prefix_concat_iff.mp above).resolve_left differ
    rw [List.prefix_nil.mp top, List.append_nil, here]
  have above : t.entry? (folder ++ [name]).dropLast = some .folder := by
    rw [List.dropLast_concat, here]
  have inner : isOuter (folder ++ [name]) = false := isOuter_concat dots
  have other : t.entry? (folder ++ [name]) ≠ some .folder := by
    rw [free]
    nofun
  have more : Filled folder t (t.put (folder ++ [name]) (.file bytes false)) := .put ideal ⟨_, rfl, plain⟩ above other
  have written : FileTree.entry? (t.put (folder ++ [name]) (.file bytes false)) (folder ++ [name]) = some (.file bytes false) := by
    rw [entry_put inner, if_pos rfl]
  rw [child, write_done led' free above]
  exact ⟨_, makeExecutable_done (more.place ideal led') written⟩

end Written

structure Empty (t : FileTree) (p : Path) (folder : List String) : Prop where
  ideal : t.Ideal
  led : t.place p = .ok folder
  here : t.entry? folder = some .folder
  nothing : ∀ rest, rest ≠ [] → ".." ∉ rest → t.entry? (folder ++ rest) = none

section WriteInto

variable {a : Artifact} (empty : Empty t p folder) (named : a.entryPoint ≠ "" ∧ '/' ∉ a.entryPoint.toList)
  (placed : Placed a.files)

include empty named placed

theorem writeInto_done (dots : a.entryPoint ≠ "." ∧ a.entryPoint ≠ "..") (noZero : hasZero a.entryPoint = false)
    (noZero' : ∀ f ∈ a.files, (Path.names f.1).any hasZero = false)
    (clear : ∀ f ∈ a.files, ¬ [a.entryPoint] <+: Path.names f.1) : ∃ u, a.writeInto t p = (u, .ok ()) := by
  obtain ⟨ideal, led, here, nothing⟩ := empty
  have plain : ".." ∉ [a.entryPoint] := by simpa [eq_comm] using dots.2
  have free := nothing [a.entryPoint] (List.cons_ne_nil _ _) plain
  obtain ⟨v, script⟩ := writeScript_done ideal led here named.1 named.2 dots.1 dots.2 noZero free (Utf8.encode a.script)
  obtain ⟨filled, -, known⟩ := writeScript_filled ideal led here named.1 named.2 script
  have vacant : ∀ f ∈ a.files, Vacant v folder (Path.names f.1) := by
    intro f member
    have still {on : List String} (above : on <+: Path.names f.1) (some : on ≠ []) : v.entry? (folder ++ on) = none := by
      have other : on ≠ [a.entryPoint] := fun same => clear f member (same ▸ above)
      rw [known, if_neg (mt List.append_cancel_left other)]
      exact nothing on some fun back => placed.plain f member (above.subset back)
    refine ⟨still List.prefix_rfl fun none => ?_, fun on above => ?_⟩
    · have deep := placed.deep f member
      simp [none] at deep
    · by_cases top : on = []
      · rw [top, List.append_nil]
        exact Or.inr (filled.folders here)
      · exact Or.inl (still above top)
  obtain ⟨u, written⟩ := writeFiles_done filled.ideal (filled.place ideal led) (filled.folders here) placed noZero' vacant
  exact ⟨u, by simp only [Artifact.writeInto, script, attempt, written]⟩

theorem writeInto_needs (done : a.writeInto t p = (u, .ok ())) :
    (a.entryPoint ≠ "." ∧ a.entryPoint ≠ "..") ∧ hasZero a.entryPoint = false ∧
      ∀ f ∈ a.files, ¬ [a.entryPoint] <+: Path.names f.1 := by
  obtain ⟨ideal, led, here, nothing⟩ := empty
  obtain ⟨filled, contents⟩ := writeInto_filled ideal led here named placed done
  have there := contents rfl nothing
  simp only [Artifact.writeInto] at done
  cases script : t.write (p.child a.entryPoint) (Utf8.encode a.script) >>= fun v => v.makeExecutable (p.child a.entryPoint) with
  | error e =>
    simp only [script, attempt] at done
    cases done
  | ok v =>
    obtain ⟨-, ⟨dot, dots, noZero⟩, -⟩ := writeScript_filled ideal led here named.1 named.2 script
    refine ⟨⟨dot, dots⟩, noZero, fun f member above => ?_⟩
    -- at the place of the script there would have to be a folder for the data file
    have file := there [a.entryPoint] (by simpa [eq_comm] using dots)
    have data := there (Path.names f.1) (placed.plain f member)
    rw [Artifact.layout_file placed member] at data
    have differ : folder ++ [a.entryPoint] ≠ folder ++ Path.names f.1 := by
      intro same
      have deep := placed.deep f member
      simp [← List.append_cancel_left same] at deep
    rw [filled.ideal.toSound.folder_over data ((List.prefix_append_right_inj _).mpr above) differ] at file
    simp [Artifact.layout] at file

end WriteInto

end FileTree

namespace Graph

open FileTree

/-- The data files of a compiled graph lie side by side in the folder of the data, and the script fits in beside them unless
    its name is dots or that of their folder. Everything can be written to an empty folder exactly when it fits in, with a
    name without zero bytes; the folder has all of it then and nothing else, and nothing ever changes outside. -/
theorem compiled_files_laid_out {r : Registry} {g : Graph} (authored : Authored r g) {s : Settings} (valid : s.Valid)
    {files : FileTree} {a : Artifact} (compiled : g.compile s files = .ok a) :
    a.entryPoint = s.entryPoint ∧ LaidOut (a.files.map (·.1)) ∧
      (∀ f ∈ a.files, ∃ node name, Path.components f.1 = [s.dataFolder, node, name]) ∧
      (LaidOut a.paths ↔ (s.entryPoint ≠ "." ∧ s.entryPoint ≠ "..") ∧ (s.entryPoint = s.dataFolder → a.files = [])) ∧
      ∀ (t : FileTree) (p : Path) (folder : List String), Empty t p folder → ∀ u outcome, a.writeInto t p = (u, outcome) →
        (∀ q, ¬ Inside folder q → u.entry? q = t.entry? q) ∧
        (outcome = .ok () ↔ LaidOut a.paths ∧ hasZero s.entryPoint = false) ∧
        (outcome = .ok () → u.entry? (folder ++ [a.entryPoint]) = some (.file (Utf8.encode a.script) true) ∧
          (∀ f ∈ a.files, u.entry? (folder ++ Path.components f.1) = some (.file (Utf8.encode f.2) false)) ∧
          ∀ rest, ".." ∉ rest → u.entry? (folder ++ rest) = a.layout rest) := by
  obtain ⟨entry, distinct, each⟩ := compile_dataPaths authored.given valid compiled
  have named := named_of_valid valid
  have placed := placed_of_dataPaths distinct each
  have sides := laidOut_iff distinct each named.2
  rw [← entry] at sides named ⊢
  refine ⟨rfl, laidOut_files distinct each, fun f member => ?_, sides, ?_⟩
  · obtain ⟨node, name, data⟩ := each f member
    exact ⟨node, name, data.components⟩
  · intro t p folder empty u outcome run
    obtain ⟨filled, contents⟩ := writeInto_filled empty.ideal empty.led empty.here named placed run
    refine ⟨filled.same, ⟨?_, ?_⟩, fun done => ?_⟩
    · rintro rfl
      obtain ⟨dots, noZero, clear⟩ := writeInto_needs empty named placed run
      exact ⟨sides.mpr ⟨dots, (entry_apart_iff each).mp clear⟩, noZero⟩
    · rintro ⟨laid, noZero⟩
      obtain ⟨dots, clear⟩ := sides.mp laid
      have noZero' : ∀ f ∈ a.files, (Path.names f.1).any hasZero = false := by
        intro f member
        obtain ⟨node, name, data⟩ := each f member
        exact data.noZero
      obtain ⟨v, done⟩ := writeInto_done empty named placed dots noZero noZero' ((entry_apart_iff each).mpr clear)
      rw [run] at done
      cases done
      rfl
    · have all := contents done empty.nothing
      subst done
      obtain ⟨⟨-, dots⟩, -⟩ := writeInto_needs empty named placed run
      refine ⟨?_, fun f member => ?_, all⟩
      · rw [all _ (by simpa [eq_comm] using dots)]
        simp [Artifact.layout]
      · obtain ⟨node, name, data⟩ := each f member
        rw [data.components, ← data.names, all _ (placed.plain f member), Artifact.layout_file placed member]

def cleared : FileTree := { home := Path.ofText "/w", nameLimit := none, entries := [(["new"], .folder)] }

theorem cleared_empty : Empty cleared (Path.ofText "new") ["new"] := by
  refine ⟨⟨⟨by decide, by decide, by decide⟩, rfl, by decide +kernel, by decide +kernel⟩, by decide +kernel, rfl, ?_⟩
  intro rest some _
  have other : "new" :: rest ≠ ["new"] := fun same => some (List.cons.inj same).2
  have inner : isOuter ["new"] = false := by decide
  refine (entry_inner (inner_below inner (List.prefix_append _ _))).trans ?_
  exact List.lookup_eq_none_iff.mpr (List.forall_mem_singleton.mpr (bne_iff_ne.mpr other))

theorem listing_laid_out :
    (∃ a u, listing.compile {} noted = .ok a ∧ LaidOut a.paths ∧ a.writeInto cleared (Path.ofText "new") = (u, .ok ()) ∧
      u.entry? ["new", "apply.sh"] = some (.file (Utf8.encode a.script) true) ∧
      u.entry? ["new", "data", "a", "list.txt"] = some (.file (Utf8.encode "10.0.0.0/8\n") false)) ∧
    ∀ entry ∈ ["data", ".", ".."], ∃ a, listing.compile { entryPoint := entry } noted = .ok a ∧ ¬ LaidOut a.paths ∧
      (a.writeInto cleared (Path.ofText "new")).2 ≠ .ok () := by
  have files (entry : String) : (listingPlan.assembled { entryPoint := entry } [listingEmission]).files =
      [("data/a/list.txt", "10.0.0.0/8\n")] := List.mergeSort_singleton _
  constructor
  case left =>
    have compiled := listing_compiled noted (s := {}) (by decide +kernel)
    have files : (listingPlan.assembled {} [listingEmission]).files = [("data/a/list.txt", "10.0.0.0/8\n")] :=
      files "apply.sh"
    generalize listingPlan.assembled {} [listingEmission] = a at *
    obtain ⟨entry, -, -, sides, written⟩ := compiled_files_laid_out listing_authored Settings.default_valid compiled
    have laid : LaidOut a.paths := sides.mpr ⟨by decide, fun same => absurd same (by decide)⟩
    cases run : a.writeInto cleared (Path.ofText "new") with
    | mk u outcome =>
      obtain ⟨-, fits, holds⟩ := written cleared _ _ cleared_empty u outcome run
      have done := fits.mpr ⟨laid, by decide⟩
      obtain ⟨script, data, -⟩ := holds done
      rw [entry] at script
      have split : Path.components "data/a/list.txt" = ["data", "a", "list.txt"] := by decide +kernel
      refine ⟨a, u, compiled, laid, by rw [run, done], script, ?_⟩
      exact split ▸ data ("data/a/list.txt", "10.0.0.0/8\n") (files ▸ List.mem_singleton_self _)
  case right =>
    intro entry given
    have valid : Settings.Valid { entryPoint := entry } := by
      simp only [List.mem_cons, List.not_mem_nil, or_false] at given
      rcases given with rfl | rfl | rfl <;> exact ⟨by decide, by decide⟩
    have short : (Scalar.int (-150)).isLongNumber = false := by decide +kernel
    have compiled := listing_compiled noted (s := { entryPoint := entry }) short
    have files := files entry
    generalize listingPlan.assembled { entryPoint := entry } [listingEmission] = a at *
    obtain ⟨-, -, -, sides, written⟩ := compiled_files_laid_out listing_authored valid compiled
    have clash : ¬ LaidOut a.paths := by
      intro laid
      obtain ⟨⟨dot, dots⟩, clear⟩ := sides.mp laid
      simp only [List.mem_cons, List.not_mem_nil, or_false] at given
      rcases given with rfl | rfl | rfl
      · rw [clear rfl] at files
        cases files
      · exact dot rfl
      · exact dots rfl
    refine ⟨a, compiled, clash, fun done => clash ?_⟩
    exact ((written cleared _ _ cleared_empty _ _ rfl).2.1.mp done).1

end Graph
end FilterGraph
