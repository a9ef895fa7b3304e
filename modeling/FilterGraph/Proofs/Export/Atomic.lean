import FilterGraph.Proofs.Export.Compiled
import FilterGraph.Proofs.Export.Script
import FilterGraph.Proofs.Registry.Integrity

namespace FilterGraph.Graph

open FileTree Artifact

theorem named_of_valid {s : Settings} (valid : s.Valid) : s.entryPoint ≠ "" ∧ '/' ∉ s.entryPoint.toList := by
  have named := valid.entryPoint
  simp only [Settings.isEntryPoint, Bool.and_eq_true, Bool.not_eq_true', List.isEmpty_eq_false_iff, List.contains_eq_mem,
    decide_eq_false_iff_not] at named
  exact ⟨fun empty => named.1 (by simp [empty]), named.2⟩

section Export

variable {g : Graph} {s : Settings} {t : FileTree} {folder : Path}

theorem export_written {a : Artifact} (compiled : g.compile s t = .ok a) :
    (g.export s t folder).tree = (a.writeTo t folder).1 ∧
      (g.export s t folder).outcome = (a.writeTo t folder).2.map fun _ => a := by
  have outcome : (g.compilation s t).outcome = .ok a := compiled
  simp only [Graph.export, outcome]
  cases a.writeTo t folder with
  | mk u result => cases result <;> exact ⟨rfl, rfl⟩

/-- A zero byte on the way to the target is no failure that is reported, and it is met before anything is made. -/
theorem export_zero {a : Artifact} (ideal : t.Ideal) (compiled : g.compile s t = .ok a)
    (zero : (t.absolute folder).parent.parts.any hasZero = true) : (g.export s t folder).tree = t ∧
      (g.export s t folder).outcome = .error ⟨none, .fault (.file (t.absolute folder).toText .zeroByte)⟩ := by
  obtain ⟨tree, outcome⟩ := @export_written g s t folder a compiled
  have made : t.makeFolders (t.absolute folder).parent = (t, .error ⟨.zeroByte, (t.absolute folder).parent, none⟩) :=
    if_pos zero
  have other : ¬ t.below? (t.absolute folder) = some [] := by
    intro root
    have parts := (below?_eq_some ideal).mp root
    obtain ⟨name, member, bad⟩ := List.any_eq_true.mp zero
    have listed : name ∈ (t.absolute folder).parts := List.dropLast_subset _ member
    rw [parts, List.append_nil] at listed
    split at listed
    · exact absurd (List.any_eq_true.mpr ⟨name, listed, bad⟩) (by rw [ideal.clean]; exact Bool.false_ne_true)
    · cases listed
  have written : a.writeTo t folder = (t, .error ⟨none, .fault (.file (t.absolute folder).toText .zeroByte)⟩) := by
    simp only [writeTo, writeBeside, made, other, if_false, unstaged]
    rfl
  rw [tree, outcome, written]
  exact ⟨rfl, rfl⟩

end Export

def listed : NodeType :=
  { Builtin.drop.nodeType with
    typeId := "lab:listed", emit := fun _ _ _ _ => .ok { files := [("list.txt", "10.0.0.0/8\n")] } }

def lists : Bundle := .ofTypes "lab" [listed]

def withLists : Registry :=
  { types := Registry.builtin.types ++ lists.types, extensions := [(lists.id, lists.fingerprint)] }

def listing : Graph :=
  Graph.new.edits withLists
    [.add "lab:listed" (some "a") [] (.list [.int 0, .int 0]), .connect ⟨⟨sourceId, "out"⟩, ⟨"a", "in"⟩⟩]

def noted : FileTree :=
  { home := Path.ofText "/w", nameLimit := none
    entries := [(["out"], .folder), (["out", "old.txt"], .file [111] false), (["notes.txt"], .file [110] false)] }

theorem listing_authored : Authored withLists listing := by
  have loading : Registry.builtin.load lists = .ok (withLists, true) :=
    Registry.load_of_new rfl (Registry.clashes_eq_nil.mpr (by decide))
  exact .edits (.new (.loaded .builtin loading)) _

def listingPlan : Plan :=
  ⟨⟨⟨listing, [], []⟩, listing.coloring⟩, [sourceId, "a", localhostId],
    [(sourceId, "source"), ("a", "n_a"), (localhostId, "localhost")]⟩

def listingEmission : Emission := ⟨"a", { files := [("list.txt", "10.0.0.0/8\n")] }⟩

theorem listing_compiled (t : FileTree) {s : Settings} (short : (Scalar.int s.basePriority).isLongNumber = false) :
    listing.compile s t = .ok (listingPlan.assembled s [listingEmission]) := by
  have straight : listing.backConnections = [] := (CycleSearch.run_eq 10 (by decide +kernel)).trans (by decide +kernel)
  have planned : Plan.ofAnalysis listing.analyze = .ok listingPlan := by
    rw [analyze_eq (by decide +kernel) straight, listingPlan]
    generalize listing.coloring = colors
    rfl
  have fine : listingEmission.fragment.problem? s = none := by
    simp only [Fragment.problem?, Fragment.sortedFiles, listingEmission, List.mergeSort_singleton]
    rfl
  have emitted : listingPlan.emit s t 1 "a" = .ok listingEmission := by
    unfold listingPlan
    generalize listing.coloring = colors
    exact Plan.emit_of_fragment rfl rfl fine
  have all : listingPlan.emitAll s t listingPlan.marked = ([listingEmission], none) := by
    have nodes : listingPlan.marked = [("a", 1)] := by
      unfold listingPlan
      generalize listing.coloring = colors
      rfl
    rw [nodes, Plan.emitAll, emitted]
    rfl
  simp only [compile, compilation, planned, all, Plan.artifact, short, Bool.false_eq_true, if_false]

end FilterGraph.Graph
