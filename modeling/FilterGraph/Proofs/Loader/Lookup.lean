import FilterGraph.Proofs.Loader.Names
import FilterGraph.Proofs.Manifest.Reordering
import FilterGraph.Proofs.Sorting

namespace FilterGraph

inductive ExtensionError.Blames (p : Path) : ExtensionError → Prop
  | unreadable (e : FileError) : Blames p (.unreadable p.toText e)
  | unparsable : Blames p (.unparsable p.toText)
  | notAMap : Blames p (.notAMap p.toText)
  | invalid (issues : List Issue) : Blames p (.invalid (some p.toText) issues)
  | misnamed (declared expected : String) : Blames p (.misnamed p.toText declared expected)

def FileTree.gives (t : FileTree) (id : String) (p : Path) : Bool :=
  match t.readYaml p with
  | .ok v => (v.field? "id").bind Value.text? == some id
  | .error _ => false

namespace Bundle

variable {t : FileTree} {p : Path}

theorem ofFile_id {b : Bundle} (read : ofFile t p = .ok b) : Manifest.isId b.id.toList = true := by
  unfold ofFile at read
  split at read
  · cases read
  · cases read
  · cases read
  · rename_i v _
    split at read
    · rw [ofValue] at read
      cases checked : Manifest.check v with
      | error issues =>
        rw [checked] at read
        cases read
      | ok m =>
        rw [checked] at read
        cases read
        exact (Manifest.check_fields checked).1
    · cases read

theorem ofFile_error {e : ExtensionError} (failed : ofFile t p = .error e) : e.Blames p ∨ ∃ f, e = .fault f := by
  unfold ofFile at failed
  split at failed
  · cases failed
    exact .inl (.unreadable _)
  · cases failed
    exact .inl .unparsable
  · cases failed
    exact .inr ⟨_, rfl⟩
  · rename_i v _
    split at failed
    · rw [ofValue] at failed
      cases checked : Manifest.check v with
      | error issues =>
        rw [checked] at failed
        cases failed
        exact .inl (.invalid issues)
      | ok m =>
        rw [checked] at failed
        cases failed
    · cases failed
      exact .inl .notAMap

theorem ofFile_fault {f : Fault} (failed : t.readYaml p = .error (.fault f)) : ofFile t p = .error (.fault f) := by
  rw [ofFile, failed]

end Bundle

namespace Loader

variable {l : Loader} {t : FileTree} {id : String} {p : Path} {paths : List Path}

/-- The file that is taken for the bundle of an id: the first one named after it, or else the first that gives it. -/
def standing? (l : Loader) (t : FileTree) (id : String) : Option Path :=
  ((l.namesakes id).find? t.isFile).or ((l.files t).find? (t.gives id))

theorem firstFile_ok (short : ∀ p ∈ paths, t.isTooLong p = false) : firstFile t paths = .ok (paths.find? t.isFile) := by
  induction paths with
  | nil => rfl
  | cons p rest ih =>
    obtain ⟨here, later⟩ := List.forall_mem_cons.mp short
    have looked : looking t p (t.isFile p) = .ok (t.isFile p) := by rw [looking, here]; rfl
    rw [firstFile, looked, List.find?_cons]
    cases t.isFile p with
    | true => rfl
    | false => exact ih later

theorem declaring_ok (sane : ∀ p ∈ paths, ∀ f, t.readYaml p ≠ .error (.fault f)) :
    (declaring t id paths).outcome = .ok (paths.find? (t.gives id)) := by
  induction paths with
  | nil => rfl
  | cons p rest ih =>
    obtain ⟨here, later⟩ := List.forall_mem_cons.mp sane
    rw [declaring, List.find?_cons, FileTree.gives]
    cases read : t.readYaml p with
    | error e =>
      cases e with
      | fault f => exact absurd read (here f)
      | _ => exact ih later
    | ok v =>
      simp only
      cases (v.field? "id").bind Value.text? == some id with
      | true => rfl
      | false => exact ih later

theorem available_ok {ids : List String} (listed : l.available t = .ok ids) : l.candidates t = .ok (l.files t) ∧
    (∀ folder ∈ l.folders, t.isTooLong folder = false) ∧ (∀ p ∈ l.files t, ∀ f, Bundle.ofFile t p ≠ .error (.fault f)) ∧
    ids = ((l.files t).filterMap fun p => (Bundle.ofFile t p).toOption.map (·.id)).eraseDups.mergeSort := by
  obtain ⟨paths, found, listed⟩ := bind_ok listed
  obtain ⟨told, each, listed⟩ := bind_ok listed
  cases listed
  obtain ⟨rfl, short⟩ := candidates_ok found
  obtain ⟨rfl, all⟩ := filterMapM_ok (g := fun p => (Bundle.ofFile t p).toOption.map (·.id)) (fun p o step => by
    cases read : Bundle.ofFile t p with
    | ok b =>
      rw [read] at step
      cases step
      rfl
    | error e =>
      rw [read] at step
      cases e <;> cases step <;> rfl) each
  refine ⟨found, short, fun p member f failed => ?_, rfl⟩
  have step := all p member
  rw [failed] at step
  cases step

theorem find_ok (found : l.candidates t = .ok (l.files t)) (short : ∀ p ∈ l.namesakes id, t.isTooLong p = false)
    (sane : ∀ p ∈ l.files t, ∀ f, t.readYaml p ≠ .error (.fault f)) : (l.find t id).outcome = .ok (l.standing? t id) := by
  rw [find, firstFile_ok short, found, standing?]
  cases (l.namesakes id).find? t.isFile with
  | none => exact declaring_ok sane
  | some p => rfl

theorem standing_listed (given : Manifest.isId id.toList = true) (stands : l.standing? t id = some p) : p ∈ l.files t := by
  rcases Option.or_eq_some_iff.mp stands with named | ⟨-, gives⟩
  · apply namesake_listed given (List.mem_of_find?_eq_some named)
    exact List.find?_some named
  · exact List.mem_of_find?_eq_some gives

theorem load_ok (found : l.candidates t = .ok (l.files t)) (short : ∀ p ∈ l.namesakes id, t.isTooLong p = false)
    (sane : ∀ p ∈ l.files t, ∀ f, Bundle.ofFile t p ≠ .error (.fault f)) (stands : l.standing? t id = some p) :
    (l.load t id).outcome = loadFound t id (some p) := by
  have readable : ∀ p ∈ l.files t, ∀ f, t.readYaml p ≠ .error (.fault f) :=
    fun p member f failed => sane p member f (Bundle.ofFile_fault failed)
  show (l.find t id).outcome.bind (loadFound t id) = _
  rw [find_ok found short readable, stands]
  rfl

theorem loadFound_cases (sane : ∀ f, Bundle.ofFile t p ≠ .error (.fault f)) :
    (∃ b, Bundle.ofFile t p = .ok b ∧ b.id = id ∧ loadFound t id (some p) = .ok b) ∨
      ∃ e, loadFound t id (some p) = .error e ∧ e.Blames p ∧ ∀ b, Bundle.ofFile t p = .ok b → b.id ≠ id := by
  cases read : Bundle.ofFile t p with
  | error e =>
    have failed : loadFound t id (some p) = .error e := by rw [loadFound, read]; rfl
    refine .inr ⟨e, failed, ?_, nofun⟩
    rcases Bundle.ofFile_error read with blamed | ⟨f, rfl⟩
    · exact blamed
    · exact absurd read (sane f)
  | ok b =>
    have ended : loadFound t id (some p) = if b.id == id then .ok b else .error (.misnamed p.toText b.id id) := by
      rw [loadFound, read]
      rfl
    by_cases same : b.id = id
    · refine .inl ⟨b, rfl, same, ?_⟩
      rw [ended, if_pos (beq_iff_eq.mpr same)]
    · refine .inr ⟨_, ?_, .misnamed b.id id, ?_⟩
      · rw [ended, if_neg (mt beq_iff_eq.mp same)]
      · rintro other equal
        cases equal
        exact same

/-- Where a list is given, it has the id of each bundle that can be read, once and in order. One that is short enough for the
    names of files, and that a file is named after or gives as a text, is looked up in one bundle file: the bundle is loaded if
    that file holds it, and otherwise the error tells what is wrong with the file. -/
theorem available_loads {ids : List String} (listed : l.available t = .ok ids) : ids.Pairwise (· < ·) ∧
    (∀ id, id ∈ ids ↔ ∃ p ∈ l.files t, ∃ b, Bundle.ofFile t p = .ok b ∧ b.id = id) ∧
    ∀ id ∈ ids, (∀ ending ∈ endings, t.admits (id ++ ending) = true) →
      ((∃ p ∈ l.namesakes id, t.isFile p = true) ∨ ∃ p ∈ l.files t, t.gives id p = true) →
      ∃ p ∈ l.files t, l.standing? t id = some p ∧
        ((∃ b, Bundle.ofFile t p = .ok b ∧ b.id = id ∧ (l.load t id).outcome = .ok b) ∨
          ∃ e, (l.load t id).outcome = .error e ∧ e.Blames p ∧ ∀ b, Bundle.ofFile t p = .ok b → b.id ≠ id) := by
  obtain ⟨found, short, sane, rfl⟩ := available_ok listed
  have members : ∀ id, id ∈ ((l.files t).filterMap fun p => (Bundle.ofFile t p).toOption.map (·.id)).eraseDups.mergeSort ↔
      ∃ p ∈ l.files t, ∃ b, Bundle.ofFile t p = .ok b ∧ b.id = id := by
    intro id
    rw [List.mem_mergeSort, List.mem_eraseDups, List.mem_filterMap]
    refine exists_congr fun p => and_congr_right fun _ => ?_
    cases Bundle.ofFile t p with
    | ok b => simp [Except.toOption]
    | error e => simp [Except.toOption]
  refine ⟨sort_strict (eraseDups_nodup _), members, fun id member fits looked => ?_⟩
  obtain ⟨_, -, b, read, rfl⟩ := (members id).mp member
  have given := Bundle.ofFile_id read
  have some : (l.standing? t b.id).isSome = true := by
    rw [standing?, Option.isSome_or, Bool.or_eq_true, List.find?_isSome, List.find?_isSome]
    exact looked
  obtain ⟨p, stands⟩ := Option.isSome_iff_exists.mp some
  have inside := standing_listed given stands
  rw [load_ok found (isTooLong_namesake given short fits) sane stands]
  exact ⟨p, inside, stands, loadFound_cases (sane p inside)⟩

def shelf : FileTree :=
  ⟨Path.ofText "/", none, [(["d"], .folder), (["d", "0.yaml"], .file "id: a\nnodes: \x7b\x7d\n".toUTF8.toList false),
    (["d", "a.yaml"], .file "id: b\nnodes: \x7b\x7d\n".toUTF8.toList false)]⟩

def shelfLoader : Loader := ⟨[Path.ofText "d"]⟩

theorem shelf_files : shelfLoader.files shelf = [Path.ofText "d/0.yaml", Path.ofText "d/a.yaml"] := by
  have here : shelf.isFolder (Path.ofText "d") = true := by decide +kernel
  have names : (shelf.names (Path.ofText "d")).filter (fun name => endings.contains (Path.suffixOf name)) =
      ["0.yaml", "a.yaml"] := by decide +kernel
  have sorted : ["0.yaml", "a.yaml"].mergeSort = ["0.yaml", "a.yaml"] := List.mergeSort_of_pairwise (by decide)
  show bundleFiles shelf (Path.ofText "d") ++ [] = _
  rw [bundleFiles, if_pos here, names, sorted]
  decide +kernel

theorem shelf_bundles : ∃ a b, Bundle.ofFile shelf (Path.ofText "d/0.yaml") = .ok a ∧ a.id = "a" ∧
    Bundle.ofFile shelf (Path.ofText "d/a.yaml") = .ok b ∧ b.id = "b" := by
  have first : (Bundle.ofFile shelf (Path.ofText "d/0.yaml")).toOption.map (·.id) = some "a" := by decide +kernel
  have second : (Bundle.ofFile shelf (Path.ofText "d/a.yaml")).toOption.map (·.id) = some "b" := by decide +kernel
  obtain ⟨a, left, idA⟩ := Option.map_eq_some_iff.mp first
  obtain ⟨b, right, idB⟩ := Option.map_eq_some_iff.mp second
  exact ⟨a, b, ok_of_toOption left, idA, ok_of_toOption right, idB⟩

theorem shelf_candidates : shelfLoader.candidates shelf = .ok (shelfLoader.files shelf) := by
  have short : shelf.isTooLong (Path.ofText "d") = false := by decide +kernel
  show ([Path.ofText "d"].mapM fun folder => looking shelf folder (bundleFiles shelf folder)).map List.flatten = _
  rw [List.mapM_cons, looking, short]
  rfl

theorem shelf_available : shelfLoader.available shelf = .ok ["a", "b"] := by
  obtain ⟨a, b, first, idA, second, idB⟩ := shelf_bundles
  have sorted : ["a", "b"].eraseDups.mergeSort = ["a", "b"] := List.mergeSort_of_pairwise (by decide)
  rw [available, shelf_candidates, shelf_files, ← sorted]
  simp only [Bind.bind, Except.bind, List.filterMapM_cons, first, second, idA, idB]
  rfl

/-- What is listed need not load: the file named after an id can hold another bundle. -/
theorem namesake_hides : shelfLoader.available shelf = .ok ["a", "b"] ∧
    ¬ ∃ b, (shelfLoader.load shelf "a").outcome = .ok b ∧ b.id = "a" := by
  have short : ∀ p ∈ shelfLoader.namesakes "a", shelf.isTooLong p = false := by decide +kernel
  have named : (shelfLoader.namesakes "a").find? shelf.isFile = some (Path.ofText "d/a.yaml") := by decide +kernel
  have stands : shelfLoader.standing? shelf "a" = some (Path.ofText "d/a.yaml") := by rw [standing?, named, Option.some_or]
  obtain ⟨-, b, -, -, second, idB⟩ := shelf_bundles
  obtain ⟨found, -, sane, -⟩ := available_ok shelf_available
  rw [load_ok found short sane stands, loadFound, second]
  refine ⟨shelf_available, ?_⟩
  rintro ⟨c, loaded, -⟩
  have apart : (b.id == "a") = false := by rw [idB]; rfl
  have refused : (if b.id == "a" then .ok b else .error (.misnamed "d/a.yaml" b.id "a") : Except ExtensionError Bundle) = .ok c :=
    loaded
  rw [apart] at refused
  cases refused

theorem misnamed_bundle_loads : shelfLoader.available shelf = .ok ["a", "b"] ∧
    ∃ b, (shelfLoader.load shelf "b").outcome = .ok b ∧ b.id = "b" := by
  have unnamed : (shelfLoader.namesakes "b").find? shelf.isFile = none := by decide +kernel
  have gives : [Path.ofText "d/0.yaml", Path.ofText "d/a.yaml"].find? (shelf.gives "b") = some (Path.ofText "d/a.yaml") := by
    decide +kernel
  have looked : ∃ p ∈ shelfLoader.files shelf, shelf.gives "b" p = true := by
    rw [shelf_files]
    exact ⟨_, List.mem_of_find?_eq_some gives, List.find?_some gives⟩
  obtain ⟨-, -, loads⟩ := available_loads shelf_available
  obtain ⟨p, -, stands, ends⟩ := loads "b" (by simp) (fun ending _ => rfl) (.inr looked)
  rw [standing?, unnamed, shelf_files, Option.none_or, gives] at stands
  cases stands
  obtain ⟨-, b, -, -, second, idB⟩ := shelf_bundles
  refine ⟨shelf_available, ?_⟩
  rcases ends with ⟨c, -, same, loaded⟩ | ⟨e, -, -, other⟩
  · exact ⟨c, loaded, same⟩
  · exact absurd idB (other b second)

end Loader

end FilterGraph
