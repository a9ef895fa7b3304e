import FilterGraph.Proofs.Export.Contents
import FilterGraph.Proofs.Text.Numeral

namespace FilterGraph

namespace FileTree

section Names

variable (t : FileTree) (folder : List String) (stem : String)

def numbered (n : Nat) : String := stem ++ Text.decimalPadded 8 n

end Names

structure Moved (t u : FileTree) (target source : List String) : Prop where
  ideal : u.Ideal
  home : u.home = t.home
  there : ∀ rest, u.entry? (target ++ rest) = t.entry? (source ++ rest)
  gone : ∀ q, source <+: q → u.entry? q = none
  same : ∀ q, ¬ target <+: q → ¬ source <+: q → u.entry? q = t.entry? q

section Base

variable {t : FileTree} {p : Path} {names : List String} {a b : String} {q : List String}

structure Base (t : FileTree) (p : Path) (names : List String) : Prop where
  ideal : t.Ideal
  known : t.below? p = some names
  led : t.place p = .ok (follow [] names)
  here : t.entry? (follow [] names) = some .folder

theorem name_below : (p.below [a]).name = a := by simp [Path.name, Path.below]

/-- The way to a folder does not lead through one of its places. -/
def Clear (names : List String) (name : String) : Prop := ∀ x ∈ way [] names, ¬ follow [] names ++ [name] <+: x

theorem not_concat_over {folder : List String} {name : String} : ¬ folder ++ [name] <+: folder := by
  intro longer
  have less := longer.length_le
  rw [List.length_append, List.length_singleton] at less
  omega

theorem concat_over_iff {folder rest : List String} : folder ++ [a] <+: folder ++ b :: rest ↔ a = b := by
  rw [List.prefix_append_right_inj, List.cons_prefix_cons]
  simp

theorem not_below {folder rest : List String} (differ : a ≠ b) : ¬ folder ++ [a] <+: folder ++ [b] ++ rest := by
  rw [List.append_assoc, List.singleton_append]
  exact mt concat_over_iff.mp differ

theorem isOuter_concat {folder : List String} (plain : a ≠ "..") : isOuter (folder ++ [a]) = false := by
  rw [isOuter_append]
  simp [isOuter, plain]

theorem Base.kept {u : FileTree} (base : Base t p names) (ideal : u.Ideal) (home : u.home = t.home)
    (same : ∀ x, x ∈ way [] names ∨ x = follow [] names → u.entry? x = t.entry? x) : Base u p names := by
  refine ⟨ideal, by rw [below?, home]; exact base.known, ?_, (same _ (Or.inr rfl)).trans base.here⟩
  refine place_kept base.ideal ideal home base.led fun others known x member here => ?_
  rw [base.known] at known
  cases known
  rw [same x (Or.inl member), here]

theorem Base.child (base : Base t p names) (plain : a ≠ "..") (noZero : hasZero a = false) :
    t.place (p.below [a]) = .ok (follow [] names ++ [a]) := by
  have plain' : ".." ∉ [a] := by simpa [eq_comm] using plain
  refine (place_below base.ideal base.led plain').mpr ⟨by simpa using noZero, rfl, fun passed above differ => ?_⟩
  have top : passed = [] := by
    cases passed with
    | nil => rfl
    | cons name rest =>
      have first := above.length_le
      obtain ⟨same, above⟩ := List.cons_prefix_cons.mp above
      rw [List.prefix_nil.mp above, same] at differ
      exact absurd rfl differ
  rw [top, List.append_nil]
  exact base.here

theorem Base.rename (base : Base t p names) (plain : a ≠ "..") (plain' : b ≠ "..") (noZero : hasZero a = false)
    (noZero' : hasZero b = false) (apart : a ≠ b) :
    t.rename (p.below [a]) (p.below [b]) = .ok (t.move (follow [] names ++ [a]) (follow [] names ++ [b])) := by
  have between : (follow [] names ++ [a]).isPrefixOf (follow [] names ++ [b]) = false :=
    Bool.not_eq_true _ ▸ mt List.isPrefixOf_iff_prefix.mp (mt concat_over_iff.mp apart)
  have along : t.moveAlong (p.below [a]) (p.below [b]) = .ok (t.move (follow [] names ++ [a]) (follow [] names ++ [b])) := by
    rw [moveAlong, base.child plain noZero, base.child plain' noZero', name_below, name_below]
    simp only [Bind.bind, Except.bind, between, beq_false_of_ne plain, beq_false_of_ne plain', Bool.or_self]
    rfl
  rw [FileTree.rename, along]
  rfl

theorem Base.exists? (base : Base t p names) (plain : a ≠ "..") (noZero : hasZero a = false) :
    t.exists? (p.below [a]) = (t.entry? (follow [] names ++ [a])).isSome := by
  rw [FileTree.exists?, find?, base.child plain noZero]
  cases found : t.entry? (follow [] names ++ [a]) <;> simp only [Bind.bind, Except.bind, found] <;> rfl

theorem Base.isFolder (base : Base t p names) (plain : a ≠ "..") (noZero : hasZero a = false) :
    t.isFolder (p.below [a]) = true ↔ t.entry? (follow [] names ++ [a]) = some .folder := by
  rw [FileTree.isFolder, find?, base.child plain noZero]
  cases found : t.entry? (follow [] names ++ [a]) with
  | none => simp only [Bind.bind, Except.bind, found]; simp [throw, throwThe, MonadExceptOf.throw]
  | some e => cases e <;> simp only [Bind.bind, Except.bind, found] <;> simp [Pure.pure, Except.pure]

theorem Base.discard (base : Base t p names) (plain : a ≠ "..") (noZero : hasZero a = false) :
    t.discard (p.below [a]) = t.remove (follow [] names ++ [a]) := by
  have some : (follow [] names ++ [a]).isEmpty = false := by simp
  rw [FileTree.discard, base.child plain noZero]
  simp only [some, Bool.false_eq_true, if_false]

theorem Base.entry_remove (plain : a ≠ "..") : FileTree.entry? (t.remove (follow [] names ++ [a])) q =
    if follow [] names ++ [a] <+: q then none else t.entry? q :=
  FileTree.entry_remove (isOuter_concat plain)

section Move

variable (base : Base t p names) (plain : a ≠ "..") (plain' : b ≠ "..") (free : t.entry? (follow [] names ++ [b]) = none)

include base plain plain' free

theorem Base.entry_move : FileTree.entry? (t.move (follow [] names ++ [a]) (follow [] names ++ [b])) q =
    if follow [] names ++ [b] <+: q then t.entry? (follow [] names ++ [a] ++ q.drop (follow [] names ++ [b]).length)
    else if follow [] names ++ [a] <+: q then none else t.entry? q := by
  have inner' : isOuter (follow [] names ++ [b]) = false := isOuter_concat plain'
  have distinct := base.ideal.toSound.distinct
  exact FileTree.entry_move
    (free_of_entries distinct inner' fun q below => base.ideal.toSound.free_below free below) distinct
    (isOuter_concat plain) inner'

theorem Base.moved (apart : a ≠ b) : Moved t (t.move (follow [] names ++ [a]) (follow [] names ++ [b]))
    (follow [] names ++ [b]) (follow [] names ++ [a]) := by
  have inner' : isOuter (follow [] names ++ [b]) = false := isOuter_concat plain'
  have sound := base.ideal.toSound
  have nothing := free_of_entries sound.distinct inner' fun q below => sound.free_below free below
  have entry (q : List String) := base.entry_move (q := q) plain plain' free
  constructor
  case ideal =>
    have above : t.entry? (follow [] names ++ [b]).dropLast = some .folder := by
      rw [List.dropLast_concat]
      exact base.here
    have outside : ¬ follow [] names ++ [a] <+: (follow [] names ++ [b]).dropLast := by
      rw [List.dropLast_concat]
      exact not_concat_over
    have sound' := Sound.move nothing sound (isOuter_concat plain) inner' above outside
    exact ⟨sound', base.ideal.unlimited, base.ideal.rooted, base.ideal.clean⟩
  case home => rfl
  case there => exact fun rest => by rw [entry, if_pos (List.prefix_append _ _), List.drop_left]
  case gone =>
    rintro q ⟨rest, rfl⟩
    rw [entry, if_neg (not_below (Ne.symm apart)), if_pos (List.prefix_append _ _)]
  case same => exact fun q outside outside' => by rw [entry, if_neg outside, if_neg outside']

-- What moves within a folder does not touch a way to it that does not lead through there.
theorem Base.move (apart : a ≠ b) (clear : Clear names a) (clear' : Clear names b) :
    Base (t.move (follow [] names ++ [a]) (follow [] names ++ [b])) p names := by
  have moved := base.moved plain plain' free apart
  refine base.kept moved.ideal rfl fun x passed => ?_
  rcases passed with on | rfl
  · exact moved.same x (clear' x on) (clear x on)
  · exact moved.same _ not_concat_over not_concat_over

/-- Where a way leads through what has moved, nothing is found behind it. -/
theorem Base.astray (apart : a ≠ b) (through : ¬ Clear names a) (rest : List String) :
    ∃ e, (t.move (follow [] names ++ [a]) (follow [] names ++ [b])).place (p.below rest) = .error e := by
  have moved := base.moved plain plain' free apart
  simp only [Clear, not_forall, not_not] at through
  obtain ⟨x, on, below⟩ := through
  cases led : (t.move (follow [] names ++ [a]) (follow [] names ++ [b])).place (p.below rest) with
  | error e => exact ⟨e, rfl⟩
  | ok q =>
    obtain ⟨-, others, known, -, folders⟩ := (place_ok moved.ideal).mp led
    have base' : FileTree.below? (t.move (follow [] names ++ [a]) (follow [] names ++ [b])) p = some names := by
      rw [below?, moved.home]
      exact base.known
    rw [below?_append moved.ideal base'] at known
    cases known
    have here := folders x (way_append ▸ List.mem_append_left _ on)
    rw [moved.gone x below] at here
    cases here

end Move

end Base

end FileTree

def ExportCause.IsReport (c : ExportCause) : Prop := ∀ f, c ≠ .fault f

namespace Artifact

open FileTree

section Replace

variable {t u : FileTree} {p : Path} {names : List String} {target staging : String}

/-- Names beside each other, of which only the target may stand in the way of the path. -/
structure Staged (t : FileTree) (p : Path) (names : List String) (target staging : String) : Prop extends Base t p names where
  plain : ∀ name ∈ [target, staging, asideName staging], name ≠ ".." ∧ hasZero name = false
  clear : Clear names staging ∧ Clear names (asideName staging)
  differ : target ≠ staging ∧ target ≠ asideName staging ∧ staging ≠ asideName staging
  free : t.entry? (follow [] names ++ [asideName staging]) = none

structure Dropped (t u : FileTree) (staged : List String) : Prop where
  ideal : u.Ideal
  home : u.home = t.home
  gone : ∀ q, staged <+: q → u.entry? q = none
  same : ∀ q, ¬ staged <+: q → u.entry? q = t.entry? q

section Lost

variable {source : Path} (lost : ∃ e, t.place source = .error e)

include lost

end Lost

variable (staged : Staged t p names target staging)

include staged

theorem dropped : Dropped t (t.discard (p.below [staging])) (follow [] names ++ [staging]) := by
  obtain ⟨plain, noZero⟩ := staged.plain staging (by simp)
  rw [staged.toBase.discard plain noZero]
  constructor
  case ideal => exact staged.ideal.remove (isOuter_concat plain)
  case home => rfl
  case gone => exact fun q below => by rw [Base.entry_remove plain, if_pos below]
  case same => exact fun q apart => by rw [Base.entry_remove plain, if_neg apart]

end Replace

end Artifact
end FilterGraph
