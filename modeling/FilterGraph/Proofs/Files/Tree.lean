import FilterGraph.FileTree
import Mathlib.Data.List.Infix
import Mathlib.Data.List.Nodup

namespace FilterGraph.FileTree

section Places

variable {place q rest : List String}

theorem isOuter_append : isOuter (place ++ rest) = (isOuter place && isOuter rest) := List.all_append

theorem inner_below (inner : isOuter place = false) (below : place <+: q) : isOuter q = false := by
  obtain ⟨rest, rfl⟩ := below
  rw [isOuter_append, inner, Bool.false_and]

theorem isOuter_dropLast (outer : isOuter place = true) : isOuter place.dropLast = true :=
  List.all_eq_true.mpr fun name member => List.all_eq_true.mp outer name (List.dropLast_subset _ member)

theorem inner_cases (inner : isOuter place = false) : ∃ folder name, place = folder ++ [name] := by
  cases place using List.reverseRecOn with
  | nil => cases inner
  | append_singleton folder name => exact ⟨folder, name, rfl⟩

end Places

/-- Places are listed once and lie in folders; those of the root folder and above it are not listed. -/
structure Sound (t : FileTree) : Prop where
  distinct : (t.entries.map (·.1)).Nodup
  inner : ∀ e ∈ t.entries, isOuter e.1 = false
  above : ∀ e ∈ t.entries, t.entry? e.1.dropLast = some .folder

section Lookup

variable {t : FileTree} {place q : List String} {e : Entry}

theorem entry_outer (outer : isOuter place = true) : t.entry? place = some .folder := if_pos outer

theorem entry_inner (inner : isOuter place = false) : t.entry? place = t.entries.lookup place :=
  if_neg (Bool.not_eq_true _ ▸ inner)

theorem inner_of_entry (other : t.entry? place ≠ some .folder) : isOuter place = false := by
  cases outer : isOuter place with
  | false => rfl
  | true => exact absurd (entry_outer outer) other

theorem mem_of_entry (inner : isOuter q = false) (found : t.entry? q = some e) : (q, e) ∈ t.entries := by
  rw [entry_inner inner] at found
  obtain ⟨before, after, listed, -⟩ := List.lookup_eq_some_iff.mp found
  rw [listed]
  exact List.mem_append_right _ List.mem_cons_self

theorem entry_eq_none (inner : isOuter q = false) : t.entry? q = none ↔ ∀ e ∈ t.entries, e.1 ≠ q := by
  rw [entry_inner inner, List.lookup_eq_none_iff]
  refine forall₂_congr fun e _ => ?_
  rw [bne_iff_ne, ne_comm]

theorem entry_of_mem (distinct : (t.entries.map (·.1)).Nodup) (inner : isOuter q = false) (listed : (q, e) ∈ t.entries) :
    t.entry? q = some e := by
  cases found : t.entry? q with
  | none => exact absurd rfl ((entry_eq_none inner).mp found _ listed)
  | some other =>
    have same := List.inj_on_of_nodup_map distinct (mem_of_entry inner found) listed rfl
    rw [(Prod.mk.inj same).2]

theorem entry_congr {u : FileTree} (left : (t.entries.map (·.1)).Nodup) (right : (u.entries.map (·.1)).Nodup)
    {p : List String} (inner : isOuter p = false) (inner' : isOuter q = false)
    (same : ∀ e, (p, e) ∈ t.entries ↔ (q, e) ∈ u.entries) : t.entry? p = u.entry? q := by
  refine Option.ext fun e => ⟨fun found => ?_, fun found => ?_⟩
  · exact entry_of_mem right inner' ((same e).mp (mem_of_entry inner found))
  · exact entry_of_mem left inner ((same e).mpr (mem_of_entry inner' found))

end Lookup

section Sound

variable {t : FileTree} (sound : t.Sound) {place q : List String} {e : Entry}

include sound

theorem Sound.folder_above (found : t.entry? q = some e) : t.entry? q.dropLast = some .folder := by
  cases outer : isOuter q with
  | true => exact entry_outer (isOuter_dropLast outer)
  | false => exact sound.above _ (mem_of_entry outer found)

theorem Sound.folder_over (found : t.entry? q = some e) (above : place <+: q) (differ : place ≠ q) :
    t.entry? place = some .folder := by
  induction q using List.reverseRecOn generalizing e with
  | nil => exact absurd (List.prefix_nil.mp above) differ
  | append_singleton q name ih =>
    have here := sound.folder_above found
    rw [List.dropLast_concat] at here
    have above' : place <+: q := (List.prefix_concat_iff.mp above).resolve_left differ
    by_cases last : place = q
    · rw [last, here]
    · exact ih here above' last

theorem Sound.free_below (free : t.entry? place = none) (below : place <+: q) : t.entry? q = none := by
  cases found : t.entry? q with
  | none => rfl
  | some e =>
    by_cases same : place = q
    · rw [← same, free] at found
      cases found
    · rw [sound.folder_over found below same] at free
      cases free

end Sound

section Put

variable {t : FileTree} {place q : List String} {e : Entry}

theorem keys_put (t : FileTree) (place : List String) (e : Entry) : (t.put place e).entries.map (·.1) =
    if place ∈ t.entries.map (·.1) then t.entries.map (·.1) else t.entries.map (·.1) ++ [place] := by
  have listed : t.entries.any (·.1 == place) = true ↔ place ∈ t.entries.map (·.1) := by
    simp only [List.any_eq_true, beq_iff_eq, List.mem_map]
  rw [put]
  by_cases known : place ∈ t.entries.map (·.1)
  · rw [if_pos (listed.mpr known), if_pos known, List.map_map]
    refine List.map_congr_left fun old _ => ?_
    simp only [Function.comp_apply]
    split <;> rfl
  · rw [if_neg (mt listed.mp known), if_neg known, List.map_append, List.map_singleton]

theorem lookup_map (f : List String → Entry → Entry) (entries : List (List String × Entry)) :
    (entries.map fun x => (x.1, f x.1 x.2)).lookup q = (entries.lookup q).map (f q) := by
  induction entries with
  | nil => rfl
  | cons first rest ih =>
    obtain ⟨key, old⟩ := first
    simp only [List.map_cons, List.lookup_cons, ih]
    by_cases same : q = key
    · simp [same]
    · simp [beq_false_of_ne same]

theorem lookup_put (t : FileTree) (place q : List String) (e : Entry) :
    (t.put place e).entries.lookup q = if q = place then some e else t.entries.lookup q := by
  rw [put]
  split
  · rename_i known
    obtain ⟨x, member, here⟩ := List.any_eq_true.mp known
    have replaced := lookup_map (q := q) (fun key old => if key == place then e else old) t.entries
    have same : (fun x : List String × Entry => (x.1, if x.1 == place then e else x.2)) =
        fun x => if x.1 == place then (x.1, e) else (x.1, x.2) := by
      funext x
      split <;> rfl
    rw [same] at replaced
    refine replaced.trans ?_
    by_cases there : q = place
    · have listed : t.entries.lookup q ≠ none := fun none =>
        bne_iff_ne.mp (List.lookup_eq_none_iff.mp none x member) (there.trans (eq_of_beq here).symm)
      obtain ⟨old, found⟩ := Option.ne_none_iff_exists'.mp listed
      rw [found]
      simp [there]
    · simp [there]
  · rename_i fresh
    have unknown : t.entries.lookup place = none := List.lookup_eq_none_iff.mpr fun x member =>
      bne_iff_ne.mpr fun same => fresh (List.any_eq_true.mpr ⟨x, member, beq_iff_eq.mpr same.symm⟩)
    rw [List.lookup_append]
    by_cases there : q = place
    · subst there
      simp [unknown]
    · have apart : (q == place) = false := beq_false_of_ne there
      simp [there, List.lookup_cons, apart]

theorem entry_put (inner : isOuter place = false) :
    FileTree.entry? (t.put place e) q = if q = place then some e else t.entry? q := by
  cases outer : isOuter q with
  | true =>
    have apart : q ≠ place := fun same => by rw [same, inner] at outer; cases outer
    rw [entry_outer outer, if_neg apart, entry_outer outer]
  | false => rw [entry_inner outer, entry_inner outer, lookup_put]

theorem Sound.put (sound : t.Sound) (inner : isOuter place = false) (above : t.entry? place.dropLast = some .folder)
    (keeps : t.entry? place = some .folder → e = .folder) : (t.put place e).Sound := by
  have folders (q : List String) (here : t.entry? q = some .folder) :
      FileTree.entry? (t.put place e) q = some .folder := by
    rw [entry_put inner]
    split
    · rename_i same
      rw [keeps (same ▸ here)]
    · exact here
  have keys (x : List String × Entry) (member : x ∈ (t.put place e).entries) : x.1 = place ∨ ∃ y ∈ t.entries, y.1 = x.1 := by
    have listed := List.mem_map_of_mem (f := (·.1)) member
    rw [keys_put] at listed
    split at listed
    · exact Or.inr (List.mem_map.mp listed)
    · rcases List.mem_append.mp listed with old | new
      · exact Or.inr (List.mem_map.mp old)
      · exact Or.inl (List.mem_singleton.mp new)
  constructor
  case distinct =>
    rw [keys_put]
    split
    · exact sound.distinct
    · rename_i fresh
      exact sound.distinct.append (List.nodup_singleton place) (by simpa using fresh)
  case inner =>
    intro x member
    rcases keys x member with same | ⟨y, listed, same⟩
    · rw [same, inner]
    · exact same ▸ sound.inner y listed
  case above =>
    intro x member
    rcases keys x member with same | ⟨y, listed, same⟩
    · exact same ▸ folders _ above
    · exact same ▸ folders _ (sound.above y listed)

end Put

section Filter

variable {t : FileTree} {place q : List String}

theorem lookup_filter (kept : List String → Bool) (entries : List (List String × Entry)) :
    (entries.filter fun x => kept x.1).lookup q = if kept q then entries.lookup q else none := by
  induction entries with
  | nil => simp
  | cons first rest ih =>
    obtain ⟨key, e⟩ := first
    simp only [List.filter_cons]
    by_cases stays : kept key = true
    · rw [if_pos stays, List.lookup_cons, List.lookup_cons, ih]
      by_cases same : q = key
      · simp [same, stays]
      · simp [beq_false_of_ne same]
    · rw [if_neg stays, List.lookup_cons, ih]
      by_cases same : q = key
      · simp [same, stays]
      · simp [beq_false_of_ne same]

theorem entry_remove (inner : isOuter place = false) :
    FileTree.entry? (t.remove place) q = if place <+: q then none else t.entry? q := by
  cases outer : isOuter q with
  | true =>
    have apart : ¬ place <+: q := fun below => by rw [inner_below inner below] at outer; cases outer
    rw [entry_outer outer, if_neg apart, entry_outer outer]
  | false =>
    have kept := lookup_filter (q := q) (fun q => !place.isPrefixOf q) t.entries
    rw [entry_inner outer, entry_inner outer]
    refine kept.trans ?_
    by_cases below : place <+: q
    · simp [List.isPrefixOf_iff_prefix.mpr below, below]
    · have not : place.isPrefixOf q = false := Bool.not_eq_true _ ▸ mt List.isPrefixOf_iff_prefix.mp below
      simp [not, below]

theorem Sound.remove (sound : t.Sound) (inner : isOuter place = false) : (t.remove place).Sound := by
  have kept (x : List String × Entry) (member : x ∈ (t.remove place).entries) : x ∈ t.entries ∧ ¬ place <+: x.1 := by
    obtain ⟨listed, stays⟩ := List.mem_filter.mp member
    refine ⟨listed, fun below => ?_⟩
    simp only [List.isPrefixOf_iff_prefix.mpr below, Bool.not_true, Bool.false_eq_true] at stays
  constructor
  case distinct => exact (List.filter_sublist.map _).nodup sound.distinct
  case inner => exact fun x member => sound.inner x (kept x member).1
  case above =>
    intro x member
    obtain ⟨listed, apart⟩ := kept x member
    rw [entry_remove inner, if_neg fun below => apart (below.trans (List.dropLast_prefix x.1))]
    exact sound.above x listed

end Filter

section Move

variable {t : FileTree} {source target q : List String}

def moved (source target q : List String) : List String :=
  if source.isPrefixOf q then target ++ q.drop source.length else q

theorem moved_below (rest : List String) : moved source target (source ++ rest) = target ++ rest := by
  rw [moved, if_pos (List.isPrefixOf_iff_prefix.mpr (List.prefix_append source rest)), List.drop_left]

theorem moved_apart (apart : ¬ source <+: q) : moved source target q = q :=
  if_neg (mt List.isPrefixOf_iff_prefix.mp apart)

theorem entries_move (t : FileTree) (source target : List String) :
    (t.move source target).entries = t.entries.map fun x => (moved source target x.1, x.2) := by
  refine List.map_congr_left fun x _ => ?_
  simp only [moved]
  split <;> rfl

section Free

variable (free : ∀ x ∈ t.entries, ¬ target <+: x.1)

include free

theorem mem_move {e : Entry} : (q, e) ∈ (t.move source target).entries ↔
    if target <+: q then (source ++ q.drop target.length, e) ∈ t.entries
    else ¬ source <+: q ∧ (q, e) ∈ t.entries := by
  rw [entries_move, List.mem_map]
  constructor
  · rintro ⟨⟨p, old⟩, member, same⟩
    obtain ⟨rfl, rfl⟩ := Prod.mk.inj same
    by_cases below : source <+: p
    · obtain ⟨rest, rfl⟩ := below
      rw [moved_below, if_pos (List.prefix_append target rest), List.drop_left]
      exact member
    · rw [moved_apart below, if_neg (free _ member)]
      exact ⟨below, member⟩
  · intro listed
    split at listed
    · rename_i below
      obtain ⟨rest, rfl⟩ := below
      rw [List.drop_left] at listed
      exact ⟨_, listed, by rw [moved_below]⟩
    · exact ⟨_, listed.2, by rw [moved_apart listed.1]⟩

theorem move_distinct (distinct : (t.entries.map (·.1)).Nodup) : ((t.move source target).entries.map (·.1)).Nodup := by
  have injective : ∀ p ∈ t.entries.map (·.1), ∀ q ∈ t.entries.map (·.1),
      moved source target p = moved source target q → p = q := by
    intro p left q right same
    have apart (p : List String) (listed : p ∈ t.entries.map (·.1)) : ¬ target <+: p := by
      obtain ⟨x, member, rfl⟩ := List.mem_map.mp listed
      exact free x member
    by_cases first : source <+: p <;> by_cases second : source <+: q
    · obtain ⟨one, rfl⟩ := first
      obtain ⟨two, rfl⟩ := second
      rw [moved_below, moved_below] at same
      rw [List.append_cancel_left same]
    · obtain ⟨one, rfl⟩ := first
      rw [moved_below, moved_apart second] at same
      exact absurd ⟨one, same⟩ (apart q right)
    · obtain ⟨two, rfl⟩ := second
      rw [moved_below, moved_apart first] at same
      exact absurd ⟨two, same.symm⟩ (apart p left)
    · rwa [moved_apart first, moved_apart second] at same
  have keys : (t.move source target).entries.map (·.1) = (t.entries.map (·.1)).map (moved source target) := by
    rw [entries_move, List.map_map, List.map_map]
    rfl
  rw [keys]
  exact List.Nodup.map_on injective distinct

/-- What was at the source and below it is at the target, and nothing is left at the source. -/
theorem entry_move (distinct : (t.entries.map (·.1)).Nodup) (inner : isOuter source = false)
    (inner' : isOuter target = false) : FileTree.entry? (t.move source target) q =
      if target <+: q then t.entry? (source ++ q.drop target.length)
      else if source <+: q then none else t.entry? q := by
  have distinct' := @move_distinct t source target free distinct
  by_cases below : target <+: q
  · rw [if_pos below]
    refine entry_congr distinct' distinct (inner_below inner' below)
      (inner_below inner (List.prefix_append _ _)) fun e => ?_
    rw [mem_move free, if_pos below]
  · rw [if_neg below]
    by_cases gone : source <+: q
    · rw [if_pos gone]
      refine (entry_eq_none (inner_below inner gone)).mpr fun x member same => ?_
      have listed := (mem_move free).mp (show (x.1, x.2) ∈ _ from member)
      rw [same, if_neg below] at listed
      exact listed.1 gone
    · rw [if_neg gone]
      cases outer : isOuter q with
      | true => rw [entry_outer outer, entry_outer outer]
      | false =>
        refine entry_congr distinct' distinct outer outer fun e => ?_
        rw [mem_move free, if_neg below, and_iff_right gone]

theorem Sound.move (sound : t.Sound) (inner : isOuter source = false) (inner' : isOuter target = false)
    (above : t.entry? target.dropLast = some .folder) (apart : ¬ source <+: target.dropLast) :
    (t.move source target).Sound := by
  have entry (q : List String) := entry_move (q := q) free sound.distinct inner inner'
  -- an entry of the new tree came along from below the source, or it stands where it stood
  have cases (x : List String × Entry) (member : x ∈ (t.move source target).entries) :
      (∃ rest, x.1 = target ++ rest ∧ (source ++ rest, x.2) ∈ t.entries) ∨ ¬ source <+: x.1 ∧ x ∈ t.entries := by
    have listed := (mem_move free).mp (show (x.1, x.2) ∈ _ from member)
    split at listed
    · rename_i below
      obtain ⟨rest, same⟩ := below
      rw [← same, List.drop_left] at listed
      exact Or.inl ⟨rest, same.symm, listed⟩
    · exact Or.inr listed
  constructor
  case distinct => exact move_distinct free sound.distinct
  case inner =>
    intro x member
    rcases cases x member with ⟨rest, here, -⟩ | ⟨-, listed⟩
    · rw [here, isOuter_append, inner', Bool.false_and]
    · exact sound.inner x listed
  case above =>
    intro x member
    rcases cases x member with ⟨rest, here, listed⟩ | ⟨apart', listed⟩
    · have parent := sound.above _ listed
      rw [here, entry]
      cases rest using List.reverseRecOn with
      | nil =>
        have shorter : ¬ target <+: target.dropLast := by
          intro longer
          obtain ⟨folder, name, rfl⟩ := inner_cases inner'
          have less := longer.length_le
          rw [List.dropLast_concat, List.length_append, List.length_singleton] at less
          omega
        rw [List.append_nil, if_neg shorter, if_neg apart, above]
      | append_singleton rest name =>
        simp only [← List.append_assoc, List.dropLast_concat] at parent ⊢
        rw [if_pos (List.prefix_append _ _), List.drop_left, parent]
    · have shorter := List.dropLast_prefix x.1
      rw [entry, if_neg fun longer => free x listed (longer.trans shorter),
        if_neg fun longer => apart' (longer.trans shorter)]
      exact sound.above x listed

end Free

theorem free_of_entries (distinct : (t.entries.map (·.1)).Nodup) (inner : isOuter target = false)
    (nothing : ∀ q, target <+: q → t.entry? q = none) : ∀ x ∈ t.entries, ¬ target <+: x.1 := by
  intro x member below
  have found := entry_of_mem distinct (inner_below inner below) member
  rw [nothing x.1 below] at found
  cases found

end Move

end FilterGraph.FileTree
