import FilterGraph.Value
import Mathlib.Data.List.Nodup

namespace FilterGraph.Entries

variable {α β : Type} [DecidableEq α]

theorem get?_cons (key other : α) (value : β) (rest : Entries α β) :
    Entries.get? key ((other, value) :: rest) = if key = other then some value else Entries.get? key rest := by
  simp only [get?, List.lookup_cons]
  by_cases same : key = other
  · rw [if_pos same, beq_iff_eq.mpr same]
  · rw [if_neg same, beq_false_of_ne same]

theorem get?_set (key other : α) (value : β) (entries : Entries α β) :
    Entries.get? other (entries.set key value) = if other = key then some value else Entries.get? other entries := by
  induction entries with
  | nil => exact get?_cons other key value []
  | cons first rest ih =>
    obtain ⟨k, v⟩ := first
    rw [set, setBy]
    by_cases same : k = key
    · subst same
      rw [if_pos (beq_self_eq_true k), get?_cons, get?_cons]
      split <;> rfl
    · rw [if_neg (Bool.not_eq_true _ ▸ beq_false_of_ne same), get?_cons, get?_cons]
      by_cases here : other = k
      · rw [if_pos here, if_neg (here ▸ same), if_pos here]
      · rw [if_neg here, if_neg here]
        exact ih

theorem get?_table (f : α → β) (keys : List α) (key : α) :
    Entries.get? key (keys.map fun k => (k, f k)) = if key ∈ keys then some (f key) else none := by
  induction keys with
  | nil => rfl
  | cons first rest ih =>
    rw [List.map_cons, get?_cons, ih]
    by_cases same : key = first
    · subst same
      rw [if_pos rfl, if_pos List.mem_cons_self]
    · rw [if_neg same]
      simp only [List.mem_cons, same, false_or]

theorem mem_of_get? {key : α} {value : β} {entries : Entries α β} (found : Entries.get? key entries = some value) :
    (key, value) ∈ entries := by
  obtain ⟨before, after, rfl, -⟩ := List.lookup_eq_some_iff.mp found
  exact List.mem_append_right _ List.mem_cons_self

theorem get?_eq_some {key : α} {value : β} {entries : Entries α β} (distinct : (entries.map (·.1)).Nodup) :
    Entries.get? key entries = some value ↔ (key, value) ∈ entries := by
  refine ⟨mem_of_get?, fun member => ?_⟩
  induction entries with
  | nil => exact absurd member List.not_mem_nil
  | cons first rest ih =>
    obtain ⟨fresh, others⟩ := List.nodup_cons.mp distinct
    rw [get?_cons]
    rcases List.mem_cons.mp member with rfl | later
    · rw [if_pos rfl]
    · have apart : key ≠ first.1 := fun same => fresh (List.mem_map.mpr ⟨_, later, same⟩)
      rw [if_neg apart]
      exact ih others later

theorem perm_of_get? {xs ys : Entries α β} (left : (xs.map (·.1)).Nodup) (right : (ys.map (·.1)).Nodup)
    (same : ∀ key, Entries.get? key xs = Entries.get? key ys) : xs.Perm ys := by
  refine (List.perm_ext_iff_of_nodup (.of_map _ left) (.of_map _ right)).mpr fun ⟨key, value⟩ => ?_
  rw [← get?_eq_some left, ← get?_eq_some right, same]

theorem keys_set (key : α) (value : β) (entries : Entries α β) :
    (entries.set key value).map (·.1) =
      if key ∈ entries.map (·.1) then entries.map (·.1) else entries.map (·.1) ++ [key] := by
  induction entries with
  | nil => rfl
  | cons first rest ih =>
    obtain ⟨k, v⟩ := first
    rw [set, setBy]
    by_cases same : k = key
    · subst same
      simp
    · rw [if_neg (Bool.not_eq_true _ ▸ beq_false_of_ne same), List.map_cons, List.map_cons, ← set, ih]
      simp only [List.mem_cons, Ne.symm same, false_or]
      split <;> rfl

theorem keys_set_nodup {entries : Entries α β} (distinct : (entries.map (·.1)).Nodup) (key : α) (value : β) :
    ((entries.set key value).map (·.1)).Nodup := by
  rw [keys_set]
  split
  · exact distinct
  · rename_i fresh
    exact distinct.append (List.nodup_singleton key) (by simpa using fresh)

theorem setBy_fresh {α β : Type} {same : α → α → Bool} {key : α} {entries : Entries α β}
    (fresh : ∀ e ∈ entries, same e.1 key = false) (value : β) : setBy same key value entries = entries ++ [(key, value)] := by
  induction entries with
  | nil => rfl
  | cons first rest ih =>
    obtain ⟨apart, others⟩ := List.forall_mem_cons.mp fresh
    rw [setBy, if_neg (Bool.not_eq_true _ ▸ apart), ih others, List.cons_append]

theorem foldl_setBy {α β : Type} {same : α → α → Bool} {known entries : Entries α β}
    (apart : (known ++ entries).Pairwise fun a b => same a.1 b.1 = false) :
    entries.foldl (fun known (k, v) => setBy same k v known) known = known ++ entries := by
  induction entries generalizing known with
  | nil => exact (List.append_nil known).symm
  | cons first rest ih =>
    obtain ⟨key, value⟩ := first
    have fresh : ∀ e ∈ known, same e.1 key = false :=
      fun e member => (List.pairwise_append.mp apart).2.2 e member (key, value) List.mem_cons_self
    rw [List.append_cons] at apart ⊢
    simp only [List.foldl_cons, setBy_fresh fresh]
    exact ih apart

section Collect

variable (entries known : Entries α β)

/-- Of the entries that are set one after the other, the last with a key stays. -/
theorem get?_foldl_set (key : α) :
    Entries.get? key (entries.foldl (fun known (k, v) => Entries.set k v known) known) =
      ((entries.reverse.find? fun e => e.1 == key).map (·.2)).or (Entries.get? key known) := by
  induction entries generalizing known with
  | nil => rfl
  | cons first rest ih =>
    obtain ⟨k, v⟩ := first
    rw [List.foldl_cons, ih, List.reverse_cons, List.find?_append, get?_set]
    cases rest.reverse.find? fun e => e.1 == key with
    | some later => rfl
    | none =>
      by_cases same : key = k
      · simp [same]
      · simp [same, Ne.symm same]

theorem get?_foldl_set_distinct (distinct : (entries.map (·.1)).Nodup) (key : α) :
    Entries.get? key (entries.foldl (fun known (k, v) => Entries.set k v known) known) =
      (Entries.get? key entries).or (Entries.get? key known) := by
  induction entries generalizing known with
  | nil => rfl
  | cons first rest ih =>
    obtain ⟨k, v⟩ := first
    obtain ⟨fresh, others⟩ := List.nodup_cons.mp distinct
    rw [List.foldl_cons, ih _ others, get?_set, get?_cons]
    by_cases same : key = k
    · have missing : Entries.get? key rest = none := by
        refine Option.eq_none_iff_forall_ne_some.mpr fun value found => ?_
        have listed : key ∈ rest.map (·.1) := List.mem_map_of_mem (mem_of_get? found)
        exact fresh (same ▸ listed)
      rw [missing, if_pos same, if_pos same]
      rfl
    · rw [if_neg same, if_neg same]

theorem keys_foldl_set (distinct : (known.map (·.1)).Nodup) :
    ((entries.foldl (fun known (k, v) => Entries.set k v known) known).map (·.1)).Nodup := by
  induction entries generalizing known with
  | nil => exact distinct
  | cons first rest ih => exact ih _ (keys_set_nodup distinct first.1 first.2)

theorem mem_foldl_set {entries : Entries α β} {e : α × β} (member : e ∈ entries.foldl (fun known (k, v) => Entries.set k v known) []) :
    e ∈ entries := by
  have found := (get?_eq_some (keys_foldl_set entries [] List.nodup_nil)).mpr member
  have nothing : Entries.get? e.1 ([] : Entries α β) = none := rfl
  rw [get?_foldl_set, nothing, Option.or_none, Option.map_eq_some_iff] at found
  obtain ⟨d, last, same⟩ := found
  have key : d.1 = e.1 := by simpa using List.find?_some last
  have listed := List.mem_reverse.mp (List.mem_of_find?_eq_some last)
  rwa [Prod.ext key same] at listed

theorem mem_foldl_set_of_alone {entries : Entries α β} {e : α × β} (member : e ∈ entries)
    (alone : ∀ d ∈ entries, d.1 = e.1 → d = e) : e ∈ entries.foldl (fun known (k, v) => Entries.set k v known) [] := by
  apply mem_of_get?
  rw [get?_foldl_set]
  cases last : entries.reverse.find? fun d => d.1 == e.1 with
  | none =>
    have none := List.find?_eq_none.mp last e (List.mem_reverse.mpr member)
    exact absurd (beq_self_eq_true e.1) none
  | some d =>
    have key : d.1 = e.1 := by simpa using List.find?_some last
    rw [alone d (List.mem_reverse.mp (List.mem_of_find?_eq_some last)) key]
    rfl

end Collect

theorem get?_of_perm {xs ys : Entries α β} (distinct : (xs.map (·.1)).Nodup) (perm : xs.Perm ys) (key : α) :
    Entries.get? key xs = Entries.get? key ys := by
  have distinct' : (ys.map (·.1)).Nodup := (perm.map _).nodup_iff.mp distinct
  exact Option.ext fun value =>
    (get?_eq_some distinct).trans (perm.mem_iff.trans (get?_eq_some distinct').symm)

section Gather

def gather (known new : Entries α (List β)) : Entries α (List β) :=
  new.foldl (fun known e => known.set e.1 ((known.get? e.1).getD [] ++ e.2)) known

theorem getD_gather (known new : Entries α (List β)) (key : α) : ((gather known new).get? key).getD [] =
    (known.get? key).getD [] ++ (new.filter (·.1 == key)).flatMap (·.2) := by
  induction new generalizing known with
  | nil => exact (List.append_nil _).symm
  | cons entry rest ih =>
    show ((gather (known.set _ _) rest).get? key).getD [] = _
    rw [ih, Entries.get?_set, List.filter_cons]
    by_cases same : key = entry.1
    · subst same
      rw [if_pos rfl, if_pos (beq_self_eq_true entry.1), Option.getD_some, List.flatMap_cons, List.append_assoc]
    · rw [if_neg same, if_neg (Bool.not_eq_true _ ▸ beq_false_of_ne (Ne.symm same))]

theorem mem_keys_gather {known new : Entries α (List β)} {key : α} :
    key ∈ (gather known new).map (·.1) ↔ key ∈ known.map (·.1) ∨ key ∈ new.map (·.1) := by
  induction new generalizing known with
  | nil => exact (or_iff_left List.not_mem_nil).symm
  | cons first rest ih =>
    show key ∈ (gather (known.set _ _) rest).map (·.1) ↔ _
    rw [ih, Entries.keys_set, List.map_cons, List.mem_cons, ← or_assoc]
    refine or_congr_left ?_
    split
    · rename_i present
      exact ⟨Or.inl, fun listed => listed.elim id fun same => same ▸ present⟩
    · rw [List.mem_append, List.mem_singleton]

theorem keys_gather_nodup (known new : Entries α (List β)) (distinct : (known.map (·.1)).Nodup) :
    ((gather known new).map (·.1)).Nodup := by
  induction new generalizing known with
  | nil => exact distinct
  | cons first rest ih => exact ih _ (keys_set_nodup distinct _ _)

end Gather

end FilterGraph.Entries
