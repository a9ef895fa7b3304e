import FilterGraph.Proofs.Export.Plan
import FilterGraph.Proofs.Export.Writing
import FilterGraph.Proofs.Graph.Naming

namespace FilterGraph

namespace Settings

structure Valid (s : Settings) : Prop where
  entryPoint : isEntryPoint s.entryPoint.toList = true
  dataFolder : isFolderName s.dataFolder.toList = true

theorem default_valid : Valid {} := ⟨by decide, by decide⟩

theorem check_valid {v : Value} {s : Settings} (checked : check v = .ok s) : s.Valid := by
  obtain ⟨entries, fields⟩ := Checked.record_ok checked
  obtain ⟨level, toLevel, -, upToPaths, rfl⟩ := Checked.apply_ok (Checked.andAlso_ok fields)
  obtain ⟨paths, toPaths, -, upToPriority, rfl⟩ := Checked.apply_ok upToPaths
  obtain ⟨priority, toPriority, -, upToHook, rfl⟩ := Checked.apply_ok upToPriority
  obtain ⟨hook, toHook, -, upToFolder, rfl⟩ := Checked.apply_ok upToHook
  obtain ⟨folder, toFolder, placed, upToEntry, rfl⟩ := Checked.apply_ok upToFolder
  obtain ⟨entry, toEntry, named, upToBinary, rfl⟩ := Checked.apply_ok upToEntry
  obtain ⟨binary, toBinary, -, upToFamily, rfl⟩ := Checked.apply_ok upToBinary
  obtain ⟨family, toFamily, -, upToTable, rfl⟩ := Checked.apply_ok upToFamily
  obtain ⟨table, toTable, -, made, rfl⟩ := Checked.apply_ok upToTable
  cases made
  constructor
  · rcases Checked.defaulted_ok named with ⟨v, passed⟩ | rfl
    · exact Checked.matching_ok passed
    · exact default_valid.entryPoint
  · rcases Checked.defaulted_ok placed with ⟨v, passed⟩ | rfl
    · exact Checked.matching_ok passed
    · exact default_valid.dataFolder

theorem Valid.assigned {s next : Settings} (valid : s.Valid) {name : String} {v : Value}
    (assigned : s.assign name v = .ok next) : next.Valid := by
  unfold assign at assigned
  split at assigned
  · cases assigned
  · split at assigned
    · cases assigned
    · split at assigned
      · cases assigned
        exact valid
      · have set := Checked.under_ok (mapError_ok.mp assigned)
        split at set
        case h_4 =>
          obtain ⟨entry, passed, rfl⟩ := map_ok set
          exact ⟨Checked.matching_ok passed, valid.dataFolder⟩
        case h_5 =>
          obtain ⟨folder, passed, rfl⟩ := map_ok set
          exact ⟨valid.entryPoint, Checked.matching_ok passed⟩
        case h_10 => cases set
        all_goals
          obtain ⟨value, -, rfl⟩ := map_ok set
          exact ⟨valid.entryPoint, valid.dataFolder⟩

end Settings

def IsName (name : String) : Prop :=
  name ≠ "" ∧ '/' ∉ name.toList ∧ name ≠ "." ∧ name ≠ ".." ∧ FileTree.hasZero name = false

theorem isName_of_pattern {name : String} {c : Char} {rest ending : List Char} {start body : Char → Bool}
    (spelt : name.toList = c :: rest ++ ending) (passed : (start c && rest.all body) = true) (plain : ending ⊆ ['\n'])
    (dot : start '.' = false) (slash : start '/' = false ∧ body '/' = false)
    (zero : start '\x00' = false ∧ body '\x00' = false) : IsName name := by
  obtain ⟨first, later⟩ := Bool.and_eq_true_iff.mp passed
  have other (text : String) (differs : text.toList.head? ≠ some c) : name ≠ text := by
    rintro rfl
    exact differs (by rw [spelt]; rfl)
  have noDot : some '.' ≠ some c := by
    intro same
    rw [← Option.some.inj same, dot] at first
    cases first
  have free {x : Char} (refused : start x = false ∧ body x = false) (other : x ≠ '\n') : x ∉ name.toList := by
    intro member
    rw [spelt, List.cons_append, List.mem_cons, List.mem_append] at member
    rcases member with rfl | inside | after
    · rw [refused.1] at first
      cases first
    · have refused := refused.2
      rw [List.all_eq_true.mp later _ inside] at refused
      cases refused
    · exact other (List.mem_singleton.mp (plain after))
  refine ⟨other "" (by simp), free slash (by decide), other "." noDot, other ".." noDot, ?_⟩
  simpa [FileTree.hasZero] using free zero (by decide)

theorem spelt_of_line {allowed : List Char → Bool} {cs : List Char} (some : allowed [] = false)
    (passed : allowed cs = true ∨ cs.getLast? = .some '\n' ∧ allowed cs.dropLast = true) :
    ∃ c rest ending, cs = c :: rest ++ ending ∧ ending ⊆ ['\n'] ∧ allowed (c :: rest) = true := by
  have first {cs : List Char} (passed : allowed cs = true) : ∃ c rest, cs = c :: rest := by
    refine List.exists_cons_of_ne_nil fun none => ?_
    rw [none, some] at passed
    cases passed
  rcases passed with passed | ⟨last, passed⟩
  · obtain ⟨c, rest, rfl⟩ := first passed
    exact ⟨c, rest, [], by rw [List.append_nil], nofun, passed⟩
  · obtain ⟨c, rest, same⟩ := first passed
    refine ⟨c, rest, ['\n'], ?_, List.Subset.refl _, same ▸ passed⟩
    rw [← same]
    exact (List.dropLast_append_getLast? _ last).symm

theorem isName_of_folderName {name : String} (named : Settings.isFolderName name.toList = true) : IsName name := by
  obtain ⟨c, rest, ending, spelt, plain, passed⟩ := spelt_of_line rfl (Or.inl named)
  have passed : (Fragment.isFileNameStart c && rest.all Fragment.isFileNameChar) = true := passed
  exact isName_of_pattern spelt passed plain (by decide) (by decide) (by decide)

theorem isName_of_givenId {id : String} (given : Graph.isGivenId id = true) : IsName id := by
  simp only [Graph.isGivenId, Bool.or_eq_true, Bool.and_eq_true, beq_iff_eq] at given
  obtain ⟨c, rest, ending, spelt, plain, passed⟩ := spelt_of_line rfl given
  rw [isNodeId] at passed
  exact isName_of_pattern spelt passed plain (by decide) (by decide) (by decide)

def isFileLine : List Char → Bool
  | [] => false
  | c :: rest => Fragment.isFileNameStart c && rest.all Fragment.isFileNameChar

theorem isName_of_fileName {name : String} (named : Fragment.isFileName name = true) : IsName name := by
  have line : isFileLine name.toList = true ∨ name.toList.getLast? = some '\n' ∧ isFileLine name.toList.dropLast = true := by
    by_cases last : name.toList.getLast? = some '\n'
    · simp only [Fragment.isFileName, last, beq_self_eq_true, if_true] at named
      exact Or.inr ⟨last, named⟩
    · simp only [Fragment.isFileName, beq_eq_false_iff_ne.mpr last, Bool.false_eq_true, if_false] at named
      exact Or.inl named
  obtain ⟨c, rest, ending, spelt, plain, passed⟩ := spelt_of_line rfl line
  rw [isFileLine] at passed
  exact isName_of_pattern spelt passed plain (by decide) (by decide) (by decide)

section DataPaths

/-- A path over the folder of the data, that of a node, and the name of a file. -/
structure IsDataPath (folder node name path : String) : Prop where
  spelt : path = s!"{folder}/{node}/{name}"
  named : ∀ part ∈ [folder, node, name], IsName part

variable {folder node name path : String}

theorem IsDataPath.toList (data : IsDataPath folder node name path) :
    path.toList = ['/'].intercalate ([folder, node, name].map String.toList) := by
  have joined : path = folder ++ "/" ++ node ++ "/" ++ name := data.spelt
  simp [joined, List.intercalate]

theorem IsDataPath.components (data : IsDataPath folder node name path) : Path.components path = [folder, node, name] :=
  Path.components_names data.toList (by simp) fun part member => (data.named part member).2.1

theorem IsDataPath.ofText (data : IsDataPath folder node name path) :
    Path.ofText path = { absolute := false, parts := [folder, node, name] } := by
  have kept : [folder, node, name].filter (fun part => part != ".") = [folder, node, name] :=
    List.filter_eq_self.mpr fun part member => bne_iff_ne.mpr (data.named part member).2.2.1
  rw [Path.ofText_names data.toList (by simp) fun part member => ⟨(data.named part member).1, (data.named part member).2.1⟩,
    kept]

theorem IsDataPath.names (data : IsDataPath folder node name path) : Path.names path = [folder, node, name] := by
  rw [Path.names, data.ofText]

theorem IsDataPath.noZero (data : IsDataPath folder node name path) : (Path.names path).any FileTree.hasZero = false := by
  rw [data.names]
  exact List.any_eq_false.mpr fun part member => by simp [(data.named part member).2.2.2.2]

/-- Data paths of which one leads over another are the same. -/
theorem IsDataPath.unique {node' name' path' : String} (data : IsDataPath folder node name path)
    (data' : IsDataPath folder node' name' path') (above : Path.components path <+: Path.components path') : path = path' := by
  rw [data.components, data'.components] at above
  have same := above.eq_of_length rfl
  simp only [List.cons.injEq, and_true, true_and] at same
  obtain ⟨rfl, rfl⟩ := same
  rw [data.spelt, data'.spelt]

theorem placed_of_dataPaths {files : Entries String String} (distinct : (files.map (·.1)).Nodup)
    (each : ∀ f ∈ files, ∃ node name, IsDataPath folder node name f.1) : Placed files := by
  have apart {f g : String × String} (left : f ∈ files) (right : g ∈ files) (differ : f.1 ≠ g.1) :
      ¬ Path.names f.1 <+: Path.names g.1 := by
    obtain ⟨node, name, data⟩ := each f left
    obtain ⟨node', name', data'⟩ := each g right
    rw [data.names, data'.names, ← data.components, ← data'.components]
    exact fun above => differ (data.unique data' above)
  constructor
  case relative =>
    intro f member
    obtain ⟨node, name, data⟩ := each f member
    rw [data.ofText]
  case deep =>
    intro f member
    obtain ⟨node, name, data⟩ := each f member
    rw [data.names]
    exact Nat.lt_add_of_pos_left (Nat.succ_pos 1)
  case plain =>
    intro f member back
    obtain ⟨node, name, data⟩ := each f member
    rw [data.names] at back
    exact (data.named ".." back).2.2.2.1 rfl
  case apart =>
    refine (List.pairwise_map.mp distinct).imp_of_mem fun left right differ => ?_
    exact ⟨apart left right differ, apart right left (Ne.symm differ)⟩

end DataPaths

namespace Plan

variable {p : Plan} {s : Settings} {files : FileTree}

theorem emit_kept {mark : Nat} {id : String} {e : Emission} (done : p.emit s files mark id = .ok e) :
    e.node ∈ p.analysis.graph.nodeIds ∧ ∀ f ∈ e.fragment.files, Fragment.isFileName f.1 = true := by
  obtain ⟨n, found, own, -, fine⟩ := emit_made done
  obtain ⟨member, same⟩ := Graph.node?_mem found
  refine ⟨Graph.mem_nodeIds.mpr ⟨n, member, same.trans own.symm⟩, fun f listed => ?_⟩
  unfold Fragment.problem? at fine
  split at fine
  case h_1 => cases fine
  case h_2 named =>
    have sorted : f ∈ e.fragment.sortedFiles := List.mem_mergeSort.mpr listed
    simpa using List.find?_eq_none.mp named f sorted

theorem mem_emitAll {nodes : List (String × Nat)} {es : List Emission} {failed? : Option ExportError}
    (emitted : p.emitAll s files nodes = (es, failed?)) :
    (∀ e ∈ es, ∃ mark id, p.emit s files mark id = .ok e) ∧
      ∀ error, failed? = some error → ∃ mark id, p.emit s files mark id = .error error := by
  induction nodes generalizing es failed? with
  | nil =>
    cases emitted
    exact ⟨nofun, nofun⟩
  | cons node rest ih =>
    obtain ⟨id, mark⟩ := node
    rw [emitAll] at emitted
    cases first : p.emit s files mark id with
    | error e =>
      simp only [first] at emitted
      cases emitted
      refine ⟨nofun, fun error same => ⟨mark, id, ?_⟩⟩
      rw [first, Option.some.inj same]
    | ok e =>
      simp only [first] at emitted
      cases later : p.emitAll s files rest with
      | mk others failed =>
        obtain ⟨each, failing⟩ := ih later
        rw [later] at emitted
        cases emitted
        exact ⟨List.forall_mem_cons.mpr ⟨⟨mark, id, first⟩, each⟩, failing⟩

end Plan

theorem Emission.files_dataPaths {s : Settings} (valid : s.Valid) {es : List Emission}
    (named : ∀ e ∈ es, IsName e.node ∧ ∀ f ∈ e.fragment.files, Fragment.isFileName f.1 = true) :
    ((Emission.files s es).map (·.1)).Nodup ∧
      ∀ f ∈ Emission.files s es, ∃ node name, IsDataPath s.dataFolder node name f.1 := by
  constructor
  · have set := Entries.keys_foldl_set (es.flatMap (placedFiles s)) [] List.nodup_nil
    exact ((List.mergeSort_perm _ _).map _).nodup_iff.mpr set
  · intro f member
    have set := List.mem_mergeSort.mp member
    obtain ⟨e, emitted, placed⟩ := List.mem_flatMap.mp (Entries.mem_foldl_set set)
    obtain ⟨file, listed, rfl⟩ := List.mem_map.mp placed
    obtain ⟨node, files⟩ := named e emitted
    refine ⟨e.node, file.1, rfl, ?_⟩
    simp only [List.forall_mem_cons]
    exact ⟨isName_of_folderName valid.dataFolder, node, isName_of_fileName (files file listed), nofun⟩

def NodeType.Reports (t : NodeType) : Prop :=
  ∀ node incoming outgoing site e, t.emit node incoming outgoing site = .error (.refused e) → e.cause.IsReport

namespace Graph

variable {g : Graph} {s : Settings} {files : FileTree}

theorem mem_analyze {n : Node} (member : n ∈ g.analyze.graph.nodes) : n ∈ g.nodes := by
  have kept : n ∈ g.normalize.graph.nodes := member
  rw [normalize_nodes] at kept
  exact (List.mem_filter.mp kept).1

theorem ofAnalysis_analysis {a : Analysis} {p : Plan} (planned : Plan.ofAnalysis a = .ok p) : p.analysis = a := by
  obtain ⟨order, -, planned⟩ := bind_ok planned
  obtain ⟨chains, -, planned⟩ := bind_ok planned
  cases planned
  rfl

/-- How compiling ends: without a plan, with a node that is not emitted, or with what all nodes have emitted. -/
theorem compile_cases : (∃ e, Plan.ofAnalysis g.analyze = .error e ∧ g.compile s files = .error e) ∨
    ∃ p : Plan, p.analysis = g.analyze ∧
      ((∃ mark id e, p.emit s files mark id = .error e ∧ g.compile s files = .error e) ∨
        ∃ es, (∀ e ∈ es, ∃ mark id, p.emit s files mark id = .ok e) ∧ g.compile s files = p.artifact s es) := by
  cases planned : Plan.ofAnalysis g.analyze with
  | error e =>
    have ended : g.compile s files = .error e := by simp only [compile, compilation, planned]
    exact Or.inl ⟨e, rfl, ended⟩
  | ok p =>
    refine Or.inr ⟨p, ofAnalysis_analysis planned, ?_⟩
    cases emitted : p.emitAll s files p.marked with
    | mk es failed? =>
      obtain ⟨each, failing⟩ := Plan.mem_emitAll emitted
      cases failed? with
      | some e =>
        have ended : g.compile s files = .error e := by simp only [compile, compilation, planned, emitted]
        obtain ⟨mark, id, failed⟩ := failing e rfl
        exact Or.inl ⟨mark, id, e, failed, ended⟩
      | none =>
        have ended : g.compile s files = p.artifact s es := by simp only [compile, compilation, planned, emitted]
        exact Or.inr ⟨es, each, ended⟩

theorem compile_dataPaths {a : Artifact} (given : ∀ n ∈ g.nodes, isGivenId n.id = true) (valid : s.Valid)
    (compiled : g.compile s files = .ok a) : a.entryPoint = s.entryPoint ∧ (a.files.map (·.1)).Nodup ∧
      ∀ f ∈ a.files, ∃ node name, IsDataPath s.dataFolder node name f.1 := by
  rcases @compile_cases g s files with ⟨e, -, failed⟩ | ⟨p, analysis, ⟨mark, id, e, -, failed⟩ | ⟨es, each, ended⟩⟩
  · rw [failed] at compiled
    cases compiled
  · rw [failed] at compiled
    cases compiled
  · rw [ended, Plan.artifact] at compiled
    split at compiled
    · cases compiled
    · cases compiled
      refine ⟨rfl, Emission.files_dataPaths valid fun e member => ?_⟩
      obtain ⟨mark, id, emitted⟩ := each e member
      obtain ⟨known, named⟩ := Plan.emit_kept emitted
      rw [analysis] at known
      obtain ⟨n, present, same⟩ := Graph.mem_nodeIds.mp known
      exact ⟨isName_of_givenId (same ▸ given n (mem_analyze present)), named⟩

theorem problem_report {f : Fragment} {c : ExportCause} (problem : f.problem? s = some c) :
    c.IsReport ∨ (Scalar.int s.basePriority).isLongNumber = true := by
  unfold Fragment.problem? at problem
  split at problem
  · cases problem
    exact Or.inl fun f => by simp
  · obtain ⟨entry, -, found⟩ := List.exists_of_findSome?_eq_some problem
    have found : s.hookProblem? entry.1 = some c := found
    unfold Settings.hookProblem? at found
    split at found
    · cases found
      exact Or.inl fun f => by simp
    · split at found
      · cases found
      · split at found
        · rename_i long
          exact Or.inr long
        · cases found
          exact Or.inl fun f => by simp

end Graph
end FilterGraph
