import FilterGraph.Text.Blank

namespace FilterGraph.Text

theorem isBlank_eq_false {c : Char} (above : 32 < c.toNat) (below : c.toNat < 133) : isBlank c = false := by
  simp only [isBlank, Bool.or_eq_false_iff, Bool.and_eq_false_iff, decide_eq_false_iff_not, beq_eq_false_iff_ne]
  omega

theorem trimStart_eq_self {cs : List Char} (first : ∀ c, cs.head? = some c → isBlank c = false) :
    trimStart cs = cs := by
  cases cs with
  | nil => rfl
  | cons c rest => simp only [trimStart, List.dropWhile_cons, first c rfl, Bool.false_eq_true, if_false]

theorem trimEnd_eq_self {cs : List Char} (last : ∀ c, cs.getLast? = some c → isBlank c = false) :
    trimEnd cs = cs := by
  have reversed : trimStart cs.reverse = cs.reverse :=
    trimStart_eq_self fun c found => last c (List.head?_reverse.symm.trans found)
  rw [trimEnd]
  exact (congrArg List.reverse reversed).trans (List.reverse_reverse cs)

theorem trim_eq_self {s : String} (first : ∀ c, s.toList.head? = some c → isBlank c = false)
    (last : ∀ c, s.toList.getLast? = some c → isBlank c = false) : trim s = s := by
  rw [trim, trimChars, trimStart_eq_self first, trimEnd_eq_self last, String.ofList_toList]

theorem trimChars_subset (cs : List Char) : trimChars cs ⊆ cs := by
  intro c member
  have member := (List.dropWhile_suffix isBlank).subset (List.mem_reverse.mp member)
  exact (List.dropWhile_suffix isBlank).subset (List.mem_reverse.mp member)

theorem trim_head {s : String} {c : Char} (first : (trim s).toList.head? = some c) : isBlank c = false := by
  rw [trim, String.toList_ofList, trimChars] at first
  have part : trimEnd (trimStart s.toList) <+: trimStart s.toList := by
    rw [trimEnd, ← List.reverse_suffix, List.reverse_reverse]
    exact List.dropWhile_suffix isBlank
  obtain ⟨rest, whole⟩ := part
  have begins : (trimStart s.toList).head? = some c := by rw [← whole, List.head?_append, first, Option.some_or]
  have stopped := List.head?_dropWhile_not isBlank s.toList
  rw [trimStart] at begins
  rw [begins] at stopped
  exact stopped

theorem trim_last {s : String} {c : Char} (last : (trim s).toList.getLast? = some c) : isBlank c = false := by
  rw [trim, String.toList_ofList, trimChars, trimEnd, List.getLast?_reverse] at last
  have stopped := List.head?_dropWhile_not isBlank (trimStart s.toList).reverse
  rwa [last] at stopped

section Padding

variable {before after : List Char} (front : ∀ c ∈ before, isBlank c = true) (back : ∀ c ∈ after, isBlank c = true)

include front in
theorem trimStart_padded (cs : List Char) : trimStart (before ++ cs) = trimStart cs := List.dropWhile_append_of_pos front

include back in
theorem trimEnd_padded (cs : List Char) : trimEnd (cs ++ after) = trimEnd cs := by
  have reversed : ∀ c ∈ after.reverse, isBlank c = true := fun c member => back c (List.mem_reverse.mp member)
  rw [trimEnd, List.reverse_append, List.dropWhile_append_of_pos reversed, trimEnd]

include front back in
theorem trimChars_padded (cs : List Char) : trimChars (before ++ cs ++ after) = trimChars cs := by
  rw [trimChars, List.append_assoc, trimStart_padded front, trimStart, List.dropWhile_append, ← trimStart]
  split
  · rename_i blank
    rw [List.isEmpty_iff] at blank
    have nothing : trimStart after = [] := by
      rw [← List.append_nil after, trimStart_padded back]
      rfl
    rw [← trimStart, nothing, trimChars, blank]
  · rw [trimEnd_padded back, trimChars]

theorem trimChars_split (cs : List Char) : ∃ before after, cs = before ++ trimChars cs ++ after ∧
    (∀ c ∈ before, isBlank c = true) ∧ ∀ c ∈ after, isBlank c = true := by
  refine ⟨cs.takeWhile isBlank, ((trimStart cs).reverse.takeWhile isBlank).reverse, ?_, ?_, ?_⟩
  · have start := List.takeWhile_append_dropWhile (p := isBlank) (l := cs)
    have stop := List.takeWhile_append_dropWhile (p := isBlank) (l := (trimStart cs).reverse)
    have stop := congrArg List.reverse stop
    rw [List.reverse_append, List.reverse_reverse] at stop
    rw [trimChars, trimEnd, List.append_assoc, stop, trimStart, start]
  · exact List.all_eq_true.mp List.all_takeWhile
  · intro c member
    exact List.all_eq_true.mp List.all_takeWhile c (List.mem_reverse.mp member)

end Padding

theorem trimChars_trimChars (cs : List Char) : trimChars (trimChars cs) = trimChars cs := by
  obtain ⟨before, after, whole, front, back⟩ := trimChars_split cs
  have again := trimChars_padded front back (trimChars cs)
  rw [← whole] at again
  exact again.symm

theorem trimChars_eq_nil {cs : List Char} : trimChars cs = [] ↔ ∀ c ∈ cs, isBlank c = true := by
  constructor
  · intro nothing
    obtain ⟨before, after, whole, front, back⟩ := trimChars_split cs
    rw [nothing, List.append_nil] at whole
    rw [whole]
    exact List.forall_mem_append.mpr ⟨front, back⟩
  · intro blank
    have padded := trimChars_padded blank (fun c member => absurd member List.not_mem_nil) ([] : List Char)
    rwa [List.append_nil, List.append_nil] at padded

end FilterGraph.Text
