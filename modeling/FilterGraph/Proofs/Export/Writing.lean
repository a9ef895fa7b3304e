import FilterGraph.Proofs.Export.Staging

namespace FilterGraph

namespace FileTree

section MakeStaging

variable {t u : FileTree} {p staging : Path} {names : List String} {target : String}

variable (base : Base t p names)

include base

end MakeStaging

theorem Base.clear {t : FileTree} {p : Path} {names : List String} {name : String} (base : Base t p names)
    (free : t.entry? (follow [] names ++ [name]) = none) : Clear names name := by
  intro x on below
  obtain ⟨-, others, known, -, folders⟩ := (place_ok base.ideal).mp base.led
  rw [base.known] at known
  cases known
  have here := folders x on
  rw [base.ideal.toSound.free_below free below] at here
  cases here

section Places

def passed (t : FileTree) (p : Path) : List (List String) := ((t.below? p).map (way [])).getD []

end Places

end FileTree

namespace Artifact

open FileTree

section Stage

variable {t u : FileTree} {p : Path} {names : List String} {target staging : String}

theorem Staged.filled (staged : Staged t p names target staging) (filled : Filled (follow [] names ++ [staging]) t u) :
    Staged u p names target staging := by
  have outside (x : List String) (apart : ¬ follow [] names ++ [staging] <+: x) : u.entry? x = t.entry? x := by
    refine filled.same x fun inside => apart ?_
    obtain ⟨rest, rfl, -⟩ := inside
    exact List.prefix_append _ _
  refine ⟨staged.toBase.kept filled.ideal filled.home fun x passed => outside x ?_, staged.plain, staged.clear, staged.differ, ?_⟩
  · rcases passed with on | rfl
    · exact staged.clear.1 x on
    · exact not_concat_over
  · rw [outside _ (mt concat_over_iff.mp staged.differ.2.2), staged.free]

/-- The tree after an export whose way led through its target: what was there is left aside, and so is what was staged. -/
structure Astray (a : Artifact) (place : List String) (made : List (List String)) (t u : FileTree) : Prop where
  gone : ∀ q, place <+: q → u.entry? q = none
  left : ∃ aside staging, t.entry? aside = none ∧ t.entry? staging = none ∧
    (∀ rest e, t.entry? (place ++ rest) = some e → u.entry? (aside ++ rest) = some e) ∧
    (∀ rest, ".." ∉ rest → u.entry? (staging ++ rest) = a.layout rest) ∧
    ∀ q, ¬ place <+: q → ¬ aside <+: q → ¬ staging <+: q → Kept made t u q

theorem Astray.grown {a : Artifact} {place : List String} {made : List (List String)} {v : FileTree} (grown : Grown made t v)
    (astray : a.Astray place made v u) : a.Astray place made t u := by
  obtain ⟨gone, aside, staging, free, free', contents, staged, outside⟩ := astray
  refine ⟨gone, aside, staging, grown.free free, grown.free free', fun rest e here => contents rest e (grown.found here),
    staged, fun q apart apart' apart'' => ?_⟩
  rcases outside q apart apart' apart'' with same | ⟨new, here, on⟩
  · rw [Kept, same]
    exact grown.same q
  · exact Or.inr ⟨grown.free new, here, on⟩

section Run

variable {a : Artifact} (named : a.entryPoint ≠ "" ∧ '/' ∉ a.entryPoint.toList) (placed : Placed a.files)
  (plain : target ≠ "..") (base : Base t p names)

include named placed plain base

end Run

end Stage

section Root

variable {t u : FileTree} (ideal : t.Ideal)

include ideal

end Root

section Endings

variable {t u : FileTree} (ideal : t.Ideal) {a : Artifact} {target : Path} {outcome : Except ExportCause Unit}

include ideal

variable (named : a.entryPoint ≠ "" ∧ '/' ∉ a.entryPoint.toList) (placed : Placed a.files)

include named placed

end Endings

end Artifact
end FilterGraph
