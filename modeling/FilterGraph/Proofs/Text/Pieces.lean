import FilterGraph.Text.Blank

namespace FilterGraph.Text

theorem pieces_eq_splitOn (mark : Char) (cs : List Char) : pieces mark cs = cs.splitOn mark := by
  induction cs with
  | nil => rfl
  | cons c cs ih =>
    rw [pieces, List.splitOn_cons_eq_if_modifyHead, ih]
    simp only [beq_iff_eq]
    split
    · rfl
    · cases found : cs.splitOn mark with
      | nil => exact absurd found (List.splitOn_ne_nil mark cs)
      | cons first others => rfl

theorem pieces_cons_mark (mark : Char) (cs : List Char) : pieces mark (mark :: cs) = [] :: pieces mark cs := by
  simp [pieces]

theorem pieces_append (mark : Char) (xs ys : List Char) : pieces mark (xs ++ mark :: ys) = pieces mark xs ++ pieces mark ys := by
  simp only [pieces_eq_splitOn, List.splitOn_append_cons_self]

theorem pieces_intercalate {mark : Char} {parts : List (List Char)} (some : parts ≠ []) (clean : ∀ part ∈ parts, mark ∉ part) :
    pieces mark ([mark].intercalate parts) = parts := by
  rw [pieces_eq_splitOn, List.splitOn_intercalate mark clean some]

theorem pieces_of_not_mem {mark : Char} {cs : List Char} (clean : mark ∉ cs) : pieces mark cs = [cs] := by
  rw [pieces_eq_splitOn, List.splitOn_eq_singleton clean]

theorem mem_intercalate {mark c : Char} {parts : List (List Char)} (member : c ∈ [mark].intercalate parts) :
    c = mark ∨ ∃ part ∈ parts, c ∈ part := by
  induction parts with
  | nil => cases member
  | cons first others ih =>
    cases others with
    | nil => exact Or.inr ⟨first, List.mem_cons_self, by simpa [List.intercalate] using member⟩
    | cons second others =>
      rw [List.intercalate_cons_cons, List.mem_append, List.mem_append, List.mem_singleton] at member
      rcases member with (here | between) | later
      · exact Or.inr ⟨first, List.mem_cons_self, here⟩
      · exact Or.inl between
      · exact (ih later).imp_right fun ⟨part, listed, inside⟩ => ⟨part, List.mem_cons_of_mem _ listed, inside⟩

theorem mem_pieces (mark : Char) {c : Char} {cs : List Char} (member : c ∈ cs) : c = mark ∨ ∃ part ∈ pieces mark cs, c ∈ part := by
  rw [pieces_eq_splitOn]
  exact mem_intercalate (by rwa [List.intercalate_splitOn])

theorem of_mem_pieces {mark : Char} {cs part : List Char} (listed : part ∈ pieces mark cs) : mark ∉ part ∧ part ⊆ cs := by
  induction cs generalizing part with
  | nil => simp_all [pieces]
  | cons c cs ih =>
    rw [pieces] at listed
    split at listed
    · rcases List.mem_cons.mp listed with rfl | later
      · exact ⟨List.not_mem_nil, List.nil_subset _⟩
      · exact ⟨(ih later).1, List.subset_cons_of_subset c (ih later).2⟩
    · rename_i other
      cases found : pieces mark cs with
      | nil => exact absurd found (pieces_ne_nil mark cs)
      | cons first others =>
        rw [found] at listed ih
        rcases List.mem_cons.mp listed with rfl | later
        · obtain ⟨clean, inside⟩ := ih List.mem_cons_self
          exact ⟨by simp [Ne.symm other, clean], List.cons_subset_cons c inside⟩
        · obtain ⟨clean, inside⟩ := ih (List.mem_cons_of_mem _ later)
          exact ⟨clean, List.subset_cons_of_subset c inside⟩

theorem join_mark_inj {mark : Char} {a b x y : List Char} (left : mark ∉ a) (right : mark ∉ b)
    (same : a ++ mark :: x = b ++ mark :: y) : a = b ∧ x = y := by
  induction a generalizing b with
  | nil =>
    cases b with
    | nil => exact ⟨rfl, (List.cons.inj same).2⟩
    | cons c b => exact absurd ((List.cons.inj same).1 ▸ List.mem_cons_self) right
  | cons c a ih =>
    cases b with
    | nil => exact absurd ((List.cons.inj same).1 ▸ List.mem_cons_self) left
    | cons d b =>
      obtain ⟨rfl, rest⟩ := List.cons.inj same
      obtain ⟨rfl, behind⟩ := ih (List.not_mem_of_not_mem_cons left) (List.not_mem_of_not_mem_cons right) rest
      exact ⟨rfl, behind⟩

theorem pieces_before {mark : Char} {before : List Char} (clean : mark ∉ before) (cs : List Char) :
    ∃ first rest, pieces mark cs = first :: rest ∧ pieces mark (before ++ cs) = (before ++ first) :: rest := by
  induction before with
  | nil =>
    obtain ⟨first, rest, cut⟩ := List.exists_cons_of_ne_nil (pieces_ne_nil mark cs)
    exact ⟨first, rest, cut, cut⟩
  | cons c before ih =>
    rw [List.mem_cons, not_or] at clean
    obtain ⟨first, rest, cut, padded⟩ := ih clean.2
    refine ⟨first, rest, cut, ?_⟩
    rw [List.cons_append, pieces, if_neg (Ne.symm clean.1), padded]
    rfl

theorem pieces_behind {mark : Char} {after : List Char} (clean : mark ∉ after) (cs : List Char) :
    ∃ init last, pieces mark cs = init ++ [last] ∧ pieces mark (cs ++ after) = init ++ [last ++ after] := by
  induction cs with
  | nil => exact ⟨[], [], rfl, pieces_of_not_mem clean⟩
  | cons c cs ih =>
    obtain ⟨init, last, cut, padded⟩ := ih
    rw [List.cons_append, pieces, pieces, cut, padded]
    split
    · exact ⟨[] :: init, last, rfl, rfl⟩
    · cases init with
      | nil => exact ⟨[], c :: last, rfl, rfl⟩
      | cons first rest => exact ⟨(c :: first) :: rest, last, rfl, rfl⟩

end FilterGraph.Text
