import FilterGraph.Loader
import FilterGraph.Proofs.Export.Contents
import FilterGraph.Proofs.Export.Compiled

namespace FilterGraph

namespace FileTree

variable {t : FileTree} {folder : Path} {name : String} {place : List String}

theorem walk_append (t : FileTree) (place names rest : List String) :
    t.walk place (names ++ rest) = t.walk place names >>= fun q => t.walk q rest := by
  induction names generalizing place with
  | nil => rfl
  | cons name names ih =>
    rw [List.cons_append, walk, walk]
    cases t.entry? place with
    | none => rfl
    | some e =>
      cases e with
      | file bytes executable => rfl
      | folder =>
        simp only
        split
        · exact ih _
        · split
          · rfl
          · exact ih _

theorem below?_name (t : FileTree) (folder : Path) (name : String) : t.below? (folder.below [name]) = some [] ∨
    t.below? (folder.below [name]) = (t.below? folder).map (· ++ [name]) := by
  have outside : (if folder.absolute = true then none else some (folder.parts ++ [name])) =
      (if folder.absolute = true then none else some folder.parts).map (· ++ [name]) := by
    cases folder.absolute <;> rfl
  unfold below?
  simp only [Path.below, List.isPrefixOf_iff_prefix, Bool.and_eq_true, beq_iff_eq]
  by_cases kind : folder.absolute = t.home.absolute
  · by_cases inside : t.home.parts <+: folder.parts
    · have longer : t.home.parts <+: folder.parts ++ [name] := inside.trans (List.prefix_append _ _)
      right
      rw [if_pos ⟨kind, longer⟩, if_pos ⟨kind, inside⟩, List.drop_append_of_le_length inside.length_le]
      rfl
    · by_cases here : t.home.parts <+: folder.parts ++ [name]
      · have home := (List.prefix_concat_iff.mp here).resolve_right inside
        left
        rw [if_pos ⟨kind, here⟩, home, List.drop_length]
      · right
        rw [if_neg (mt And.right here), if_neg (mt And.right inside)]
        exact outside
  · right
    rw [if_neg (mt And.left kind), if_neg (mt And.left kind)]
    exact outside

theorem place_name (t : FileTree) (folder : Path) (noZero : hasZero name = false) : t.place (folder.below [name]) = .ok [] ∨
    t.place (folder.below [name]) = t.place folder >>= fun q => t.walk q [name] := by
  have parts : (folder.below [name]).parts.any hasZero = folder.parts.any hasZero := by
    simp [Path.below, noZero]
  rw [place, place, parts]
  by_cases zero : folder.parts.any hasZero = true
  · right
    rw [if_pos zero, if_pos zero]
    rfl
  · rw [if_neg zero, if_neg zero]
    rcases t.below?_name folder name with root | on
    · left
      rw [root]
      rfl
    · right
      rw [on]
      cases t.below? folder with
      | none => rfl
      | some names => exact t.walk_append [] names [name]

theorem walk_name (plain : name ≠ "..") : t.walk place [name] =
    match t.entry? place with
    | none => .error .missing
    | some (.file _ _) => .error .notAFolder
    | some .folder => if t.admits name then .ok (place ++ [name]) else .error .nameTooLong := by
  rw [walk]
  cases t.entry? place with
  | none => rfl
  | some e =>
    cases e with
    | file bytes executable => rfl
    | folder =>
      simp only [beq_false_of_ne plain, Bool.false_eq_true, if_false]
      cases t.admits name <;> rfl

theorem isTooLong_eq_false {p : Path} : t.isTooLong p = false ↔ t.place p ≠ .error .nameTooLong := by
  unfold isTooLong
  cases t.place p with
  | ok q => simp
  | error e => cases e <;> simp

theorem isTooLong_name (plain : name ≠ "..") (noZero : hasZero name = false) (short : t.isTooLong folder = false)
    (admitted : t.admits name = true) : t.isTooLong (folder.below [name]) = false := by
  rw [isTooLong_eq_false] at short ⊢
  rcases t.place_name folder noZero with root | on
  · rw [root]
    exact nofun
  · rw [on]
    cases led : t.place folder with
    | error e =>
      rw [led] at short
      exact fun failed => short (congrArg Except.error (Except.error.inj failed))
    | ok q =>
      show t.walk q [name] ≠ _
      rw [walk_name plain, admitted]
      cases t.entry? q with
      | none => exact nofun
      | some e => cases e <;> exact nofun

theorem isFile_ok {p : Path} (file : t.isFile p = true) :
    ∃ q bytes executable, t.place p = .ok q ∧ t.entry? q = some (.file bytes executable) := by
  unfold isFile find? at file
  cases led : t.place p with
  | error e =>
    rw [led] at file
    cases file
  | ok q =>
    rw [led] at file
    simp only [Bind.bind, Except.bind] at file
    cases here : t.entry? q with
    | none =>
      rw [here] at file
      cases file
    | some e =>
      rw [here] at file
      cases e with
      | file bytes executable => exact ⟨q, bytes, executable, rfl, here⟩
      | folder => cases file

theorem walk_name_ok {q : List String} (plain : name ≠ "..") (led : t.walk place [name] = .ok q) :
    t.entry? place = some .folder ∧ q = place ++ [name] := by
  rw [walk_name plain] at led
  cases here : t.entry? place with
  | none =>
    rw [here] at led
    cases led
  | some e =>
    rw [here] at led
    cases e with
    | file bytes executable => cases led
    | folder =>
      simp only at led
      split at led
      · exact ⟨rfl, (Except.ok.inj led).symm⟩
      · cases led

theorem isFile_name (plain : name ≠ "..") (noZero : hasZero name = false) (file : t.isFile (folder.below [name]) = true) :
    t.isFolder folder = true ∧ name ∈ t.names folder := by
  obtain ⟨q, bytes, executable, led, found⟩ := isFile_ok file
  have inner : isOuter q = false := by
    apply inner_of_entry (t := t)
    rw [found]
    simp
  rcases t.place_name folder noZero with root | on
  · obtain rfl : q = [] := Except.ok.inj (led.symm.trans root)
    cases inner
  · rw [led] at on
    obtain ⟨place, before, last⟩ := bind_ok on.symm
    obtain ⟨above, rfl⟩ := walk_name_ok plain last
    constructor
    · rw [isFolder, find?, before]
      simp only [Bind.bind, Except.bind, above]
      rfl
    · rw [names, before]
      refine List.mem_filterMap.mpr ⟨_, mem_of_entry inner found, ?_⟩
      simp

end FileTree

theorem Path.suffixOf_ending {stem : String} {letters : List Char} (filled : stem ≠ "") (some : letters ≠ [])
    (single : '.' ∉ letters) : suffixOf (stem ++ String.ofList ('.' :: letters)) = String.ofList ('.' :: letters) := by
  have written : (stem ++ String.ofList ('.' :: letters)).toList = stem.toList ++ '.' :: letters := by
    rw [String.toList_append, String.toList_ofList]
  have length : (stem ++ String.ofList ('.' :: letters)).length = stem.toList.length + (letters.length + 1) := by
    rw [← String.length_toList, written, List.length_append, List.length_cons]
  have after : (stem.toList ++ '.' :: letters).reverse.takeWhile (· != '.') = letters.reverse := by
    rw [List.reverse_append, List.reverse_cons, List.append_assoc, List.takeWhile_append_of_pos]
    · simp
    · intro c member
      exact bne_iff_ne.mpr fun same => single (same ▸ List.mem_reverse.mp member)
  have start : 0 < stem.toList.length := List.length_pos_iff.mpr (mt String.toList_eq_nil_iff.mp filled)
  unfold suffixOf
  rw [written, after, length]
  simp only [List.length_reverse, List.isEmpty_reverse, List.length_dropLast, List.length_append, List.length_cons,
    List.reverse_reverse]
  rw [if_pos]
  simp only [Bool.and_eq_true, decide_eq_true_eq, Bool.not_eq_true', List.isEmpty_eq_false_iff]
  exact ⟨⟨by omega, some⟩, by omega⟩

namespace Loader

variable {l : Loader} {t : FileTree} {id ending : String}

def files (l : Loader) (t : FileTree) : List Path := l.folders.flatMap (bundleFiles t)

theorem candidates_ok {paths : List Path} (found : l.candidates t = .ok paths) :
    paths = l.files t ∧ ∀ folder ∈ l.folders, t.isTooLong folder = false := by
  obtain ⟨lists, listed, rfl⟩ := map_ok found
  have each : List.Forall₂ (fun folder paths => t.isTooLong folder = false ∧ bundleFiles t folder = paths) l.folders lists := by
    refine (mapM_ok listed).imp fun folder paths looked => ?_
    unfold looking at looked
    cases long : t.isTooLong folder with
    | true =>
      rw [long] at looked
      cases looked
    | false =>
      rw [long] at looked
      cases looked
      exact ⟨rfl, rfl⟩
  constructor
  · have same : l.folders.map (bundleFiles t) = lists.map fun paths => paths :=
      forall₂_map_eq each fun folder paths here => here.2
    rw [files, List.flatMap_def, same, List.map_id']
  · intro folder member
    obtain ⟨paths, -, short, -⟩ := (forall₂_partners each).1 folder member
    exact short

theorem ending_spelt (known : ending ∈ endings) : ∃ letters, letters ≠ [] ∧ (∀ c ∈ letters, c.isLower = true) ∧
    ending = String.ofList ('.' :: letters) := by
  simp only [endings, List.mem_cons, List.not_mem_nil, or_false] at known
  rcases known with rfl | rfl | rfl
  · exact ⟨"yaml".toList, by decide, List.all_eq_true.mp (by decide), rfl⟩
  · exact ⟨"yml".toList, by decide, List.all_eq_true.mp (by decide), rfl⟩
  · exact ⟨"json".toList, by decide, List.all_eq_true.mp (by decide), rfl⟩

section Given

variable (given : Manifest.isId id.toList = true)

include given

theorem isName_namesake (known : ending ∈ endings) : IsName (id ++ ending) := by
  obtain ⟨letters, some, lower, rfl⟩ := ending_spelt known
  cases spelt : id.toList with
  | nil =>
    rw [spelt] at given
    cases given
  | cons c rest =>
    rw [spelt, Manifest.isId, Bool.and_eq_true_iff, List.all_eq_true] at given
    have written : (id ++ String.ofList ('.' :: letters)).toList = c :: (rest ++ '.' :: letters) ++ [] := by
      rw [String.toList_append, spelt, String.toList_ofList, List.append_nil, List.cons_append]
    refine @isName_of_pattern _ _ _ _ Char.isLower (fun c => c.isLower || c.isDigit || c == '_' || c == '-' || c == '.')
      written ?_ (List.nil_subset _) (by decide) (by decide) (by decide)
    simp only [Bool.and_eq_true, List.all_eq_true, List.mem_append, List.mem_cons]
    refine ⟨given.1, ?_⟩
    rintro x (before | rfl | after)
    · rw [given.2 x before, Bool.true_or]
    · decide
    · simp [lower x after]

theorem child_namesake (folder : Path) (known : ending ∈ endings) : folder.child (id ++ ending) = folder.below [id ++ ending] := by
  obtain ⟨filled, single, dot, -⟩ := isName_namesake given known
  rw [FileTree.child_name filled single]
  simp [dot]

theorem isTooLong_namesake (short : ∀ folder ∈ l.folders, t.isTooLong folder = false)
    (fits : ∀ ending ∈ endings, t.admits (id ++ ending) = true) : ∀ p ∈ l.namesakes id, t.isTooLong p = false := by
  intro p member
  obtain ⟨folder, searched, member⟩ := List.mem_flatMap.mp member
  obtain ⟨ending, known, rfl⟩ := List.mem_map.mp member
  obtain ⟨-, -, -, plain, noZero⟩ := isName_namesake given known
  rw [child_namesake given folder known]
  exact FileTree.isTooLong_name plain noZero (short folder searched) (fits ending known)

theorem namesake_listed {p : Path} (named : p ∈ l.namesakes id) (file : t.isFile p = true) : p ∈ l.files t := by
  obtain ⟨folder, searched, member⟩ := List.mem_flatMap.mp named
  obtain ⟨ending, known, rfl⟩ := List.mem_map.mp member
  refine List.mem_flatMap.mpr ⟨folder, searched, ?_⟩
  obtain ⟨-, -, -, plain, noZero⟩ := isName_namesake given known
  rw [child_namesake given folder known] at file
  obtain ⟨here, listed⟩ := FileTree.isFile_name plain noZero file
  rw [bundleFiles, if_pos here]
  refine List.mem_map.mpr ⟨_, List.mem_mergeSort.mpr (List.mem_filter.mpr ⟨listed, ?_⟩), rfl⟩
  obtain ⟨letters, some, lower, rfl⟩ := ending_spelt known
  have filled : id ≠ "" := by
    rintro rfl
    cases given
  have single : '.' ∉ letters := fun member => absurd (lower '.' member) (by decide)
  rw [Path.suffixOf_ending filled some single]
  exact List.contains_iff_mem.mpr known

end Given

end Loader

end FilterGraph
