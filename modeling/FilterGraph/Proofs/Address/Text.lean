import FilterGraph.Address
import FilterGraph.Proofs.Text.Numeral
import FilterGraph.Proofs.Text.Pieces
import Mathlib.Data.List.Induction
import Mathlib.Data.Option.Basic

namespace FilterGraph.Address

section Digits

theorem toDigits_succ (base count n : Nat) : toDigits base (count + 1) n = toDigits base count (n / base) ++ [n % base] := by
  simp only [toDigits, List.range_succ, List.map_append, List.map_singleton]
  congr 1
  · apply List.map_congr_left
    intro i member
    have below := List.mem_range.mp member
    have power : count + 1 - 1 - i = count - 1 - i + 1 := by omega
    change n / base ^ (count + 1 - 1 - i) % base = n / base / base ^ (count - 1 - i) % base
    rw [power, Nat.pow_succ, Nat.mul_comm, Nat.div_div_eq_div_mul]
  · change [n / base ^ (count + 1 - 1 - count) % base] = [n % base]
    simp

theorem ofDigits_append_digit (base : Nat) (digits : List Nat) (d : Nat) :
    ofDigits base (digits ++ [d]) = base * ofDigits base digits + d := by
  simp [ofDigits]

theorem ofDigits_toDigits (base count n : Nat) : ofDigits base (toDigits base count n) = n % base ^ count := by
  induction count generalizing n with
  | zero => simp [toDigits, ofDigits, Nat.mod_one]
  | succ count ih =>
    rw [toDigits_succ, ofDigits_append_digit, ih, Nat.pow_succ', Nat.mod_mul]
    omega

theorem length_toDigits (base count n : Nat) : (toDigits base count n).length = count := by
  simp [toDigits]

theorem toDigits_lt {base : Nat} (some : 0 < base) (count n : Nat) : ∀ d ∈ toDigits base count n, d < base := by
  intro d member
  obtain ⟨i, -, rfl⟩ := List.mem_map.mp member
  exact Nat.mod_lt _ some

end Digits

section Bytes

theorem byte?_toDigits {b : Nat} (small : b < 256) : byte? (Nat.toDigits 10 b) = some b := by
  have all : ∀ b : Fin 256, byte? (Nat.toDigits 10 b.val) = some b.val := by decide +kernel
  exact all ⟨b, small⟩

theorem mapM_read {α β : Type} {read : β → Option α} {write : α → β} {l : List α} (back : ∀ a ∈ l, read (write a) = some a) :
    (l.map write).mapM read = some l := by
  induction l with
  | nil => rfl
  | cons a rest ih =>
    obtain ⟨first, others⟩ := List.forall_mem_cons.mp back
    rw [List.map_cons, List.mapM_cons, first, ih others]
    rfl

theorem v4Number?_v4Text {n : Nat} (small : n < 2 ^ 32) : v4Number? (v4Text n) = some n := by
  have bytes : ∀ b ∈ toDigits 256 4 n, b < 256 := toDigits_lt (by decide) 4 n
  have parts : Text.pieces '.' (v4Text n) = (toDigits 256 4 n).map (Nat.toDigits 10) := by
    apply Text.pieces_intercalate
    · simp [toDigits]
    · intro part listed point
      obtain ⟨b, -, rfl⟩ := List.mem_map.mp listed
      exact absurd (Nat.isDigit_of_mem_toDigits (by decide) (by decide) point) (by decide)
  have read : ((toDigits 256 4 n).map (Nat.toDigits 10)).mapM byte? = some (toDigits 256 4 n) :=
    mapM_read fun b member => byte?_toDigits (bytes b member)
  have value : ofDigits 256 (toDigits 256 4 n) = n := by
    rw [ofDigits_toDigits]
    exact Nat.mod_eq_of_lt small
  rw [v4Number?, parts]
  simp only [List.length_map, length_toDigits, read, Option.bind_eq_bind, Option.bind_some, value]
  rfl

end Bytes

section Groups

theorem group?_toDigits {g : Nat} (small : g < 0x10000) : group? (Nat.toDigits 16 g) = some g := by
  have short : (Nat.toDigits 16 g).length ≤ 4 := (Nat.length_toDigits_le_iff (by decide) (by decide)).mpr small
  have filled : (Nat.toDigits 16 g).isEmpty = false := by simp
  have hex : (Nat.toDigits 16 g).all Text.isHexDigit = true := List.all_eq_true.mpr (Text.isHexDigit_toDigits g)
  simp [group?, short, filled, hex, Text.asciiNumber_toDigits]

/-- The parts that groups are written as; beside a gap an empty part stands for none. -/
def writtenParts (groups : List Nat) : List (List Char) :=
  if groups.isEmpty then [[]] else groups.map (Nat.toDigits 16)

theorem pieces_hexGroups (groups : List Nat) : Text.pieces ':' (hexGroups groups) = writtenParts groups := by
  cases groups with
  | nil => rfl
  | cons g rest =>
    apply Text.pieces_intercalate
    · simp
    · intro part listed colon
      obtain ⟨g, -, rfl⟩ := List.mem_map.mp listed
      exact absurd (Text.isHexDigit_toDigits g ':' colon) (by decide)

theorem writtenParts_ne_nil (groups : List Nat) : writtenParts groups ≠ [] := by
  cases groups <;> simp [writtenParts]

/-- Only where no groups stand beside the gap there is an empty part, at the very end of the address. -/
theorem writtenParts_filled (groups : List Nat) :
    (∀ part ∈ (writtenParts groups).tail, part ≠ []) ∧ ∀ part ∈ (writtenParts groups).dropLast, part ≠ [] := by
  cases groups with
  | nil => exact ⟨nofun, nofun⟩
  | cons g rest =>
    have filled : ∀ part ∈ writtenParts (g :: rest), part ≠ [] := by
      intro part listed
      obtain ⟨g, -, rfl⟩ := List.mem_map.mp listed
      exact Nat.toDigits_ne_nil
    exact ⟨fun part listed => filled part (List.mem_of_mem_tail listed),
      fun part listed => filled part (List.dropLast_subset _ listed)⟩

theorem lastGroups?_of_no_point {cs : List Char} (clean : '.' ∉ cs) : lastGroups? cs = some [cs] := by
  simp [lastGroups?, clean]

theorem point_not_mem_writtenParts {groups : List Nat} : ∀ part ∈ writtenParts groups, '.' ∉ part := by
  intro part listed point
  cases groups with
  | nil => simp_all [writtenParts]
  | cons g rest =>
    obtain ⟨g, -, rfl⟩ := List.mem_map.mp listed
    exact absurd (Text.isHexDigit_toDigits g '.' point) (by decide)

theorem mapM_group? {groups : List Nat} (small : ∀ g ∈ groups, g < 0x10000) :
    (groups.map (Nat.toDigits 16)).mapM group? = some groups :=
  mapM_read fun g member => group?_toDigits (small g member)

theorem splitAtGap?_of_filled {parts : List (List Char)} (filled : ∀ part ∈ parts, part ≠ []) : splitAtGap? parts = some none := by
  have inner : (List.range parts.length).filter (fun i =>
      0 < i && i + 1 < parts.length && (parts.getD i []).isEmpty) = [] := by
    rw [List.filter_eq_nil_iff]
    intro i member
    have below := List.mem_range.mp member
    have part := filled parts[i] (List.getElem_mem below)
    simp [below, part]
  rw [splitAtGap?, inner]

section Gap

variable {before after : List (List Char)}

theorem getD_before_gap {i : Nat} (filled : ∀ part ∈ before.tail, part ≠ []) (earlier : i + 1 < before.length) :
    (before ++ [] :: after).getD (i + 1) [] ≠ [] := by
  have shorter : i < before.tail.length := by
    rw [List.length_tail]
    omega
  have inside : before[i + 1] ∈ before.tail := by
    rw [← List.getElem_tail shorter]
    exact List.getElem_mem _
  rw [List.getD_eq_getElem?_getD, List.getElem?_append_left earlier, List.getElem?_eq_getElem earlier]
  exact filled _ inside

theorem getD_after_gap {j : Nat} (filled : ∀ part ∈ after.dropLast, part ≠ []) (later : j + 1 < after.length) :
    (before ++ [] :: after).getD (before.length + (j + 1)) [] ≠ [] := by
  have shorter : j < after.dropLast.length := by
    rw [List.length_dropLast]
    omega
  have inside : after[j] ∈ after.dropLast := by
    rw [← List.getElem_dropLast shorter]
    exact List.getElem_mem _
  rw [List.getD_eq_getElem?_getD, List.getElem?_append_right (Nat.le_add_right _ _), Nat.add_sub_cancel_left,
    List.getElem?_cons_succ, List.getElem?_eq_getElem (by omega)]
  exact filled _ inside

theorem isGap_iff (left : before ≠ []) (right : after ≠ []) (leftFilled : ∀ part ∈ before.tail, part ≠ [])
    (rightFilled : ∀ part ∈ after.dropLast, part ≠ []) {i : Nat} (below : i < (before ++ [] :: after).length) :
    (0 < i && i + 1 < (before ++ [] :: after).length && ((before ++ [] :: after).getD i []).isEmpty) = true ↔
      i = before.length := by
  have leftSome := List.length_pos_iff.mpr left
  have rightSome := List.length_pos_iff.mpr right
  have length : (before ++ [] :: after).length = before.length + after.length + 1 := by simp [Nat.add_assoc]
  rw [length] at below ⊢
  simp only [Bool.and_eq_true, decide_eq_true_eq, List.isEmpty_iff]
  constructor
  · -- a blank part at either end is no gap, so only the inner parts have to be filled
    rintro ⟨⟨positive, inner⟩, blank⟩
    rcases Nat.lt_trichotomy i before.length with earlier | here | later
    · obtain ⟨k, rfl⟩ := Nat.exists_eq_succ_of_ne_zero (Nat.ne_of_gt positive)
      exact absurd blank (getD_before_gap leftFilled earlier)
    · exact here
    · obtain ⟨j, rfl⟩ : ∃ j, i = before.length + (j + 1) := ⟨i - before.length - 1, by omega⟩
      exact absurd blank (getD_after_gap rightFilled (by omega))
  · rintro rfl
    exact ⟨⟨leftSome, by omega⟩, by simp⟩

theorem splitAtGap?_gap (left : before ≠ []) (right : after ≠ []) (leftFilled : ∀ part ∈ before.tail, part ≠ [])
    (rightFilled : ∀ part ∈ after.dropLast, part ≠ []) :
    splitAtGap? (before ++ [] :: after) = some (some (before, after)) := by
  have gaps : (List.range (before ++ [] :: after).length).filter (fun i =>
      0 < i && i + 1 < (before ++ [] :: after).length && ((before ++ [] :: after).getD i []).isEmpty) = [before.length] := by
    have only := fun i (member : i ∈ List.range (before ++ [] :: after).length) =>
      Bool.eq_iff_iff.mpr ((isGap_iff left right leftFilled rightFilled (List.mem_range.mp member)).trans beq_iff_eq.symm)
    rw [List.filter_congr only, List.filter_beq, List.Nodup.count List.nodup_range, if_pos]
    · rfl
    · simp
  rw [splitAtGap?, gaps]
  simp

end Gap

theorem v6Groups?_eq {cs : List Char} {parts : List (List Char)} (cut : Text.pieces ':' cs = parts) (three : 3 ≤ parts.length)
    (nine : parts.length ≤ 9) (clean : ∀ part ∈ parts, '.' ∉ part) :
    v6Groups? cs = (splitAtGap? parts).bind fun
      | some (before, after) => gapGroups? before after
      | none => if parts.length = 8 then parts.mapM group? else none := by
  have filled : parts ≠ [] := by
    rintro rfl
    cases three
  have last : parts.getLastD [] = parts.getLast filled := by simp [List.getLast?_eq_some_getLast filled]
  have whole : parts.dropLast ++ [parts.getLast filled] = parts := List.dropLast_concat_getLast filled
  have plain : lastGroups? (parts.getLast filled) = some [parts.getLast filled] :=
    lastGroups?_of_no_point (clean _ (List.getLast_mem filled))
  simp only [v6Groups?, cut, guard, three, if_true, last, plain, whole, nine, Option.bind_eq_bind, Option.pure_def,
    Option.bind_some]
  cases splitAtGap? parts with
  | none => rfl
  | some gap? =>
    cases gap? with
    | some gap => rfl
    | none =>
      by_cases eight : parts.length = 8
      · simp [eight]
      · simp [eight]

theorem v6Groups?_hexGroups {groups : List Nat} (small : ∀ g ∈ groups, g < 0x10000) (length : groups.length = 8) :
    v6Groups? (hexGroups groups) = some groups := by
  have some : groups.isEmpty = false := by
    cases groups with
    | nil => cases length
    | cons g rest => rfl
  have parts : writtenParts groups = groups.map (Nat.toDigits 16) := by simp [writtenParts, some]
  have filled : ∀ part ∈ writtenParts groups, part ≠ [] := by
    intro part listed
    rw [parts] at listed
    obtain ⟨g, -, rfl⟩ := List.mem_map.mp listed
    exact Nat.toDigits_ne_nil
  have count : (writtenParts groups).length = 8 := by rw [parts, List.length_map, length]
  rw [v6Groups?_eq (pieces_hexGroups groups) (by omega) (by omega) point_not_mem_writtenParts, splitAtGap?_of_filled filled,
    Option.bind_some, if_pos count, parts, mapM_group? small]

theorem length_writtenParts_le (groups : List Nat) : (writtenParts groups).length ≤ groups.length + 1 := by
  cases groups <;> simp [writtenParts]

theorem writtenParts_front (groups : List Nat) : (groups = [] ∧ writtenParts groups = [[]]) ∨
    ∃ c cs rest, writtenParts groups = (c :: cs) :: rest ∧ writtenParts groups = groups.map (Nat.toDigits 16) := by
  cases groups with
  | nil => exact Or.inl ⟨rfl, rfl⟩
  | cons g rest =>
    obtain ⟨c, cs, digits⟩ := List.exists_cons_of_ne_nil (Nat.toDigits_ne_nil (n := g) (b := 16))
    exact Or.inr ⟨c, cs, rest.map (Nat.toDigits 16), by simp [writtenParts, digits], rfl⟩

theorem writtenParts_back (groups : List Nat) : (groups = [] ∧ writtenParts groups = [[]]) ∨
    ∃ c cs rest, (writtenParts groups).reverse = (c :: cs) :: rest ∧ writtenParts groups = groups.map (Nat.toDigits 16) := by
  induction groups using List.reverseRecOn with
  | nil => exact Or.inl ⟨rfl, rfl⟩
  | append_singleton init g =>
    obtain ⟨c, cs, digits⟩ := List.exists_cons_of_ne_nil (Nat.toDigits_ne_nil (n := g) (b := 16))
    exact Or.inr ⟨c, cs, (init.map (Nat.toDigits 16)).reverse, by simp [writtenParts, digits], by simp [writtenParts]⟩

theorem gapGroups?_writtenParts {before after : List Nat} (left : ∀ g ∈ before, g < 0x10000) (right : ∀ g ∈ after, g < 0x10000)
    (room : before.length + after.length < 8) :
    gapGroups? (writtenParts before) (writtenParts after) =
      some (before ++ List.replicate (8 - (before.length + after.length)) 0 ++ after) := by
  have gap : 1 ≤ 8 - (before.length + after.length) := by omega
  have leftRead := mapM_group? left
  have rightRead := mapM_group? right
  rcases writtenParts_front before with ⟨rfl, front⟩ | ⟨c, cs, rest, front, same⟩
  · rcases writtenParts_back after with ⟨rfl, back⟩ | ⟨d, ds, more, back, also⟩
    · rfl
    · simp only [gapGroups?, front]
      simp only [back]
      rw [also]
      simp only [List.length_nil, Nat.zero_add] at gap ⊢
      simp [guard, gap, rightRead]
  · rcases writtenParts_back after with ⟨rfl, back⟩ | ⟨d, ds, more, back, also⟩
    · simp only [gapGroups?, front, back, List.reverse_singleton]
      rw [← front, same]
      simp only [List.length_nil, Nat.add_zero] at gap ⊢
      simp [guard, gap, leftRead]
    · simp only [gapGroups?, front]
      simp only [back]
      rw [← front, same, also]
      simp [guard, gap, leftRead, rightRead]

theorem v6Groups?_gap {before after : List Nat} (left : ∀ g ∈ before, g < 0x10000) (right : ∀ g ∈ after, g < 0x10000)
    (room : before.length + after.length < 7) :
    v6Groups? (hexGroups before ++ [':', ':'] ++ hexGroups after) =
      some (before ++ List.replicate (8 - (before.length + after.length)) 0 ++ after) := by
  have cut : Text.pieces ':' (hexGroups before ++ [':', ':'] ++ hexGroups after) =
      writtenParts before ++ [] :: writtenParts after := by
    have split : hexGroups before ++ [':', ':'] ++ hexGroups after = hexGroups before ++ ':' :: ':' :: hexGroups after := by simp
    have joined := Text.pieces_cons_mark ':' (hexGroups after)
    rw [split, Text.pieces_append, joined, pieces_hexGroups, pieces_hexGroups]
  have leftSome := List.length_pos_iff.mpr (writtenParts_ne_nil before)
  have rightSome := List.length_pos_iff.mpr (writtenParts_ne_nil after)
  have leftFew := length_writtenParts_le before
  have rightFew := length_writtenParts_le after
  have length : (writtenParts before ++ [] :: writtenParts after).length =
      (writtenParts before).length + (writtenParts after).length + 1 := by simp [Nat.add_assoc]
  have clean : ∀ part ∈ writtenParts before ++ [] :: writtenParts after, '.' ∉ part := by
    simp only [List.forall_mem_append, List.forall_mem_cons]
    exact ⟨point_not_mem_writtenParts, List.not_mem_nil, point_not_mem_writtenParts⟩
  rw [v6Groups?_eq cut (by omega) (by omega) clean, splitAtGap?_gap (writtenParts_ne_nil before) (writtenParts_ne_nil after) ?_ ?_]
  · exact gapGroups?_writtenParts left right (by omega)
  · exact (writtenParts_filled before).1
  · exact (writtenParts_filled after).2

theorem cut_zeroRun (groups : List Nat) (start : Nat) : groups.take start ++
    List.replicate (zeroRun (groups.drop start)) 0 ++ groups.drop (start + zeroRun (groups.drop start)) = groups := by
  have zeros : (groups.drop start).takeWhile (· == 0) = List.replicate (zeroRun (groups.drop start)) 0 := by
    refine List.eq_replicate_iff.mpr ⟨rfl, fun g member => ?_⟩
    exact eq_of_beq (List.all_eq_true.mp List.all_takeWhile g member)
  have split := List.takeWhile_append_dropWhile (p := (· == 0)) (l := groups.drop start)
  have rest : (groups.drop start).drop (zeroRun (groups.drop start)) = (groups.drop start).dropWhile (· == 0) :=
    calc (groups.drop start).drop (zeroRun (groups.drop start))
      _ = ((groups.drop start).takeWhile (· == 0) ++ (groups.drop start).dropWhile (· == 0)).drop
          (zeroRun (groups.drop start)) := by rw [split]
      _ = (groups.drop start).dropWhile (· == 0) := List.drop_left
  rw [← zeros, ← List.drop_drop, rest, List.append_assoc, split, List.take_append_drop]

theorem v6Groups?_cut {groups : List Nat} (small : ∀ g ∈ groups, g < 0x10000) (length : groups.length = 8) {start : Nat}
    (long : 2 ≤ zeroRun (groups.drop start)) :
    v6Groups? (hexGroups (groups.take start) ++ [':', ':'] ++
      hexGroups (groups.drop (start + zeroRun (groups.drop start)))) = some groups := by
  have cut := cut_zeroRun groups start
  generalize zeroRun (groups.drop start) = run at long cut ⊢
  have count := congrArg List.length cut
  simp only [List.length_append, List.length_replicate, length] at count
  have gap : 8 - ((groups.take start).length + (groups.drop (start + run)).length) = run := by omega
  rw [v6Groups?_gap (fun g member => small g (List.mem_of_mem_take member)) (fun g member => small g (List.mem_of_mem_drop member))
    (by omega), gap, cut]

theorem v6Groups?_v6Text (n : Nat) : v6Groups? (v6Text n) = some (toDigits 0x10000 8 n) := by
  have small : ∀ g ∈ toDigits 0x10000 8 n, g < 0x10000 := toDigits_lt (by decide) 8 n
  have length : (toDigits 0x10000 8 n).length = 8 := length_toDigits ..
  rw [v6Text]
  split
  · exact v6Groups?_hexGroups small length
  · rename_i long
    exact v6Groups?_cut small length (Nat.not_lt.mp long)

end Groups

section Characters

def plainChars : List Char := "0123456789abcdef.:/".toList

theorem digitChar_plain {d : Nat} (small : d < 16) : d.digitChar ∈ plainChars ∧ d.digitChar ≠ '%' ∧ d.digitChar ≠ '/' := by
  have all : ∀ d : Fin 16, d.val.digitChar ∈ plainChars ∧ d.val.digitChar ≠ '%' ∧ d.val.digitChar ≠ '/' := by decide
  exact all ⟨d, small⟩

theorem mem_v4Text {n : Nat} {c : Char} (member : c ∈ v4Text n) : c = '.' ∨ ∃ d < 10, c = d.digitChar := by
  refine (Text.mem_intercalate member).imp_right fun ⟨part, listed, inside⟩ => ?_
  obtain ⟨b, -, rfl⟩ := List.mem_map.mp listed
  exact Text.mem_toDigits (by decide) inside

theorem mem_hexGroups {groups : List Nat} {c : Char} (member : c ∈ hexGroups groups) : c = ':' ∨ ∃ d < 16, c = d.digitChar := by
  refine (Text.mem_intercalate member).imp_right fun ⟨part, listed, inside⟩ => ?_
  obtain ⟨g, -, rfl⟩ := List.mem_map.mp listed
  exact Text.mem_toDigits (by decide) inside

theorem mem_v6Text {n : Nat} {c : Char} (member : c ∈ v6Text n) : c = ':' ∨ ∃ d < 16, c = d.digitChar := by
  rw [v6Text] at member
  split at member
  · exact mem_hexGroups member
  · rcases List.mem_append.mp member with front | back
    · rcases List.mem_append.mp front with before | gap
      · exact mem_hexGroups before
      · exact Or.inl (by simpa using gap)
    · exact mem_hexGroups back

end Characters

end FilterGraph.Address
