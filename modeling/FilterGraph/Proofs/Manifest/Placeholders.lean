import FilterGraph.Template
import Mathlib.Data.List.TakeWhile

namespace FilterGraph.Template

def IsIdentifier (name : List Char) : Prop :=
  ∃ c rest, name = c :: rest ∧ startsName c = true ∧ ∀ d ∈ rest, continuesName d = true

def Stops (cs : List Char) : Prop := ∀ c, cs.head? = some c → continuesName c = false

/-- What the characters `used` behind a dollar sign mean when `left` follows. -/
inductive Marks : Piece → List Char → List Char → Prop
  | sign {left : List Char} : Marks (.literal '$') ['$'] left
  | bare {name left : List Char} (named : IsIdentifier name) (stops : Stops left) :
      Marks (.placeholder (String.ofList name)) name left
  | braced {name left : List Char} (named : IsIdentifier name) :
      Marks (.placeholder (String.ofList name)) ('\x7b' :: (name ++ ['\x7d'])) left

inductive Spells : List Piece → List Char → Prop
  | nil : Spells [] []
  | plain {c : Char} {ps : List Piece} {cs : List Char} (other : c ≠ '$') (rest : Spells ps cs) :
      Spells (.literal c :: ps) (c :: cs)
  | dollar {piece : Piece} {ps : List Piece} {used left : List Char} (marks : Marks piece used left) (rest : Spells ps left) :
      Spells (piece :: ps) ('$' :: (used ++ left))

def Piece.Formed (piece : Piece) : Prop := ∀ line column, piece ≠ .malformed line column

section Names

theorem name?_eq_some {cs found : List Char} :
    name? cs = some found ↔ IsIdentifier found ∧ ∃ left, cs = found ++ left ∧ Stops left := by
  constructor
  · intro named
    cases cs with
    | nil => cases named
    | cons c rest =>
      rw [name?] at named
      split at named
      · rename_i starts
        cases named
        refine ⟨⟨c, _, rfl, starts, fun d member => List.mem_takeWhile_imp member⟩, rest.dropWhile continuesName, ?_, ?_⟩
        · rw [List.cons_append, List.takeWhile_append_dropWhile]
        · intro d first
          have last := List.head?_dropWhile_not continuesName rest
          rw [first] at last
          simpa using last
      · cases named
  · rintro ⟨⟨c, rest, rfl, starts, goes⟩, left, rfl, stops⟩
    have none : left.takeWhile continuesName = [] := by
      cases left with
      | nil => rfl
      | cons d more => rw [List.takeWhile_cons, stops d rfl, if_neg Bool.false_ne_true]
    rw [List.cons_append, name?, if_pos starts, List.takeWhile_append_of_pos goes, none, List.append_nil]

theorem IsIdentifier.head {name : List Char} (named : IsIdentifier name) (left : List Char) :
    ∃ c rest, name ++ left = c :: rest ∧ c ≠ '$' ∧ c ≠ '\x7b' := by
  obtain ⟨c, rest, rfl, starts, -⟩ := named
  refine ⟨c, rest ++ left, rfl, ?_, ?_⟩ <;>
  · rintro rfl
    exact absurd starts (by decide)

end Names

section Dollars

variable {read rest : List Char} {piece : Piece}

theorem afterDollar_marks {next : Piece × Nat} (formed : next.1.Formed) (step : afterDollar read rest = next) :
    ∃ used left, rest = used ++ left ∧ next.2 = used.length ∧ Marks next.1 used left := by
  unfold afterDollar at step
  dsimp only at step
  split at step
  · rename_i more
    cases step
    exact ⟨['$'], more, rfl, rfl, .sign⟩
  · rename_i inner
    split at step
    · rename_i found named
      split at step
      · rename_i closed
        cases step
        obtain ⟨identifier, left, rfl, -⟩ := name?_eq_some.mp named
        rw [List.drop_left, beq_iff_eq] at closed
        obtain ⟨more, rfl⟩ := List.head?_eq_some_iff.mp closed
        exact ⟨_, more, by simp, by simp, .braced identifier⟩
      · cases step
        exact absurd rfl (formed _ _)
    · cases step
      exact absurd rfl (formed _ _)
  · split at step
    · rename_i found named
      cases step
      obtain ⟨identifier, left, rfl, stops⟩ := name?_eq_some.mp named
      exact ⟨_, left, rfl, rfl, .bare identifier stops⟩
    · cases step
      exact absurd rfl (formed _ _)

theorem Marks.formed {used left : List Char} (marks : Marks piece used left) : piece.Formed := by
  cases marks <;> nofun

theorem Marks.afterDollar {used left : List Char} (marks : Marks piece used left) (read : List Char) :
    afterDollar read (used ++ left) = (piece, used.length) := by
  cases marks with
  | sign => rfl
  | bare named stops =>
    have name := name?_eq_some.mpr ⟨named, left, rfl, stops⟩
    obtain ⟨c, rest, front, notDollar, notBrace⟩ := named.head left
    rw [front] at name ⊢
    unfold Template.afterDollar
    dsimp only
    split
    · rename_i same
      exact absurd (List.cons.inj same).1 notDollar
    · rename_i same
      exact absurd (List.cons.inj same).1 notBrace
    · rw [name]
  | @braced word _ named =>
    have stops : Stops ('\x7d' :: left) := by
      intro c first
      cases first
      decide
    have name := name?_eq_some.mpr ⟨named, '\x7d' :: left, rfl, stops⟩
    have text : '\x7b' :: (word ++ ['\x7d']) ++ left = '\x7b' :: (word ++ '\x7d' :: left) := by simp
    rw [text]
    simp [Template.afterDollar, name]

end Dollars

theorem piecesFrom_dollar (read rest : List Char) :
    piecesFrom read 0 ('$' :: rest) = (afterDollar ('$' :: read) rest).1 ::
      piecesFrom ('$' :: read) (afterDollar ('$' :: read) rest).2 rest := by rw [piecesFrom, if_pos rfl]

theorem piecesFrom_skip (read used left : List Char) :
    piecesFrom read used.length (used ++ left) = piecesFrom (used.reverse ++ read) 0 left := by
  induction used generalizing read with
  | nil => rfl
  | cons c rest ih =>
    rw [List.length_cons, List.cons_append, piecesFrom, ih, List.reverse_cons, List.append_assoc, List.singleton_append]

theorem piecesFrom_spells (read cs : List Char) (formed : ∀ piece ∈ piecesFrom read 0 cs, piece.Formed) :
    Spells (piecesFrom read 0 cs) cs := by
  -- on the length, as a placeholder takes several characters at once
  induction size : cs.length using Nat.strong_induction_on generalizing read cs with
  | _ n ih =>
    cases cs with
    | nil => exact .nil
    | cons c rest =>
      subst size
      by_cases dollar : c = '$'
      · subst dollar
        rw [piecesFrom_dollar] at formed ⊢
        obtain ⟨first, others⟩ := List.forall_mem_cons.mp formed
        generalize step : afterDollar ('$' :: read) rest = next at first others ⊢
        obtain ⟨used, left, rfl, taken, marks⟩ := afterDollar_marks first step
        rw [taken, piecesFrom_skip] at others ⊢
        refine .dollar marks (ih left.length ?_ _ _ others rfl)
        simp only [List.length_cons, List.length_append]
        omega
      · rw [piecesFrom, if_neg dollar] at formed ⊢
        exact .plain dollar (ih rest.length (Nat.lt_succ_self _) _ _ (List.forall_mem_cons.mp formed).2 rfl)

theorem Spells.piecesFrom {ps : List Piece} {cs : List Char} (spells : Spells ps cs) (read : List Char) :
    piecesFrom read 0 cs = ps := by
  induction spells generalizing read with
  | nil => rfl
  | @plain c ps cs other _ ih => rw [Template.piecesFrom, if_neg other, ih]
  | @dollar piece ps used left marks _ ih =>
    rw [piecesFrom_dollar, marks.afterDollar, piecesFrom_skip, ih]

theorem Spells.formed {ps : List Piece} {cs : List Char} (spells : Spells ps cs) : ∀ piece ∈ ps, piece.Formed := by
  induction spells with
  | nil => nofun
  | plain _ _ ih => exact List.forall_mem_cons.mpr ⟨nofun, ih⟩
  | dollar marks _ ih => exact List.forall_mem_cons.mpr ⟨marks.formed, ih⟩

theorem spells_iff {ps : List Piece} {template : String} :
    Spells ps template.toList ↔ pieces template = ps ∧ ∀ piece ∈ ps, piece.Formed := by
  constructor
  · exact fun spells => ⟨spells.piecesFrom [], spells.formed⟩
  · rintro ⟨rfl, formed⟩
    exact piecesFrom_spells [] _ formed

end FilterGraph.Template
