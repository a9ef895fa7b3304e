import FilterGraph.Proofs.Address.Text
import FilterGraph.Proofs.Outcome

namespace FilterGraph.Address

theorem ofDigits_lt {base : Nat} {digits : List Nat} (small : ∀ d ∈ digits, d < base) :
    ofDigits base digits < base ^ digits.length := by
  induction digits using List.reverseRecOn with
  | nil => simp [ofDigits]
  | append_singleton init d ih =>
    obtain ⟨before, last⟩ := List.forall_mem_append.mp small
    have digit := List.forall_mem_singleton.mp last
    have step := Nat.mul_le_mul_left base (Nat.succ_le_of_lt (ih before))
    rw [ofDigits_append_digit, List.length_append, List.length_singleton, Nat.pow_succ']
    rw [Nat.mul_succ] at step
    omega

section Bytes

theorem byte?_some {cs : List Char} {b : Nat} (read : byte? cs = some b) : b < 256 ∧ ∀ c ∈ cs, c.isDigit = true := by
  simp only [byte?, Option.bind_eq_bind, Option.bind_eq_some_iff, Option.guard_eq_some', Option.pure_def,
    Option.some.injEq, exists_const, Bool.and_eq_true, List.all_eq_true] at read
  obtain ⟨⟨⟨-, digits⟩, -⟩, -, small, rfl⟩ := read
  exact ⟨Nat.lt_succ_of_le small, digits⟩

theorem v4Number?_some {cs : List Char} {n : Nat} (read : v4Number? cs = some n) :
    n < 2 ^ 32 ∧ ∀ c ∈ cs, c = '.' ∨ c.isDigit = true := by
  simp only [v4Number?, Option.bind_eq_bind, Option.bind_eq_some_iff, Option.guard_eq_some', Option.pure_def,
    Option.some.injEq, exists_const] at read
  obtain ⟨four, bytes, parts, rfl⟩ := read
  have related := mapM_some parts
  have pairs := forall₂_partners related
  constructor
  · have small : ∀ b ∈ bytes, b < 256 := by
      intro b member
      obtain ⟨part, -, done⟩ := pairs.2 b member
      exact (byte?_some done).1
    have bound := ofDigits_lt small
    rwa [← related.length_eq, four] at bound
  · intro c member
    rcases Text.mem_pieces '.' member with point | ⟨part, listed, inside⟩
    · exact Or.inl point
    · obtain ⟨b, -, done⟩ := pairs.1 part listed
      exact Or.inr ((byte?_some done).2 c inside)

end Bytes

section Groups

theorem group?_lt {cs : List Char} {g : Nat} (read : group? cs = some g) : g < 0x10000 := by
  rw [group?] at read
  split at read
  · rename_i hex
    simp only [Bool.and_eq_true, decide_eq_true_eq] at hex
    cases read
    have bound : Text.asciiNumber 16 cs < 16 ^ cs.length := Text.asciiNumber_lt fun c _ => Text.digitValue_lt c
    exact Nat.lt_of_lt_of_le bound (Nat.pow_le_pow_right (by decide) hex.1.2)
  · cases read

theorem mapM_group?_lt {parts : List (List Char)} {groups : List Nat} (read : parts.mapM group? = some groups) :
    groups.length = parts.length ∧ ∀ g ∈ groups, g < 0x10000 := by
  have related := mapM_some read
  refine ⟨related.length_eq.symm, fun g member => ?_⟩
  obtain ⟨part, -, done⟩ := (forall₂_partners related).2 g member
  exact group?_lt done

theorem filled_some (before after : List (List Char)) {groups : List Nat} (read : (do
      let gap := 8 - (before.length + after.length)
      guard (1 ≤ gap)
      return (← before.mapM group?) ++ List.replicate gap 0 ++ (← after.mapM group?)) = some groups) :
    groups.length = 8 ∧ ∀ g ∈ groups, g < 0x10000 := by
  simp only [Option.bind_eq_bind, Option.bind_eq_some_iff, Option.guard_eq_some', Option.pure_def, Option.some.injEq,
    exists_const] at read
  obtain ⟨room, front, frontRead, back, backRead, rfl⟩ := read
  obtain ⟨frontLength, frontSmall⟩ := mapM_group?_lt frontRead
  obtain ⟨backLength, backSmall⟩ := mapM_group?_lt backRead
  constructor
  · rw [List.length_append, List.length_append, List.length_replicate, frontLength, backLength]
    omega
  · refine List.forall_mem_append.mpr ⟨List.forall_mem_append.mpr ⟨frontSmall, fun g member => ?_⟩, backSmall⟩
    rw [List.eq_of_mem_replicate member]
    decide

theorem gapGroups?_some {before after : List (List Char)} {groups : List Nat} (read : gapGroups? before after = some groups) :
    groups.length = 8 ∧ ∀ g ∈ groups, g < 0x10000 := by
  unfold gapGroups? at read
  -- the parts after the gap first, then those before it
  split at read
  · split at read
    · exact filled_some [] [] read
    · cases read
    · exact filled_some before [] read
  · split at read <;> cases read
  · split at read
    · exact filled_some [] after read
    · cases read
    · exact filled_some before after read

theorem v6Groups?_some {cs : List Char} {groups : List Nat} (read : v6Groups? cs = some groups) :
    ':' ∈ cs ∧ groups.length = 8 ∧ ∀ g ∈ groups, g < 0x10000 := by
  simp only [v6Groups?, Option.bind_eq_bind, Option.bind_eq_some_iff, Option.guard_eq_some', exists_const] at read
  obtain ⟨three, last, -, -, gap, -, read⟩ := read
  constructor
  · by_contra clean
    rw [Text.pieces_of_not_mem clean] at three
    rw [List.length_singleton] at three
    omega
  · cases gap with
    | some sides => exact gapGroups?_some read
    | none =>
      simp only [Option.bind_eq_some_iff, Option.guard_eq_some', exists_const] at read
      obtain ⟨eight, read⟩ := read
      obtain ⟨length, small⟩ := mapM_group?_lt read
      exact ⟨length.trans eight, small⟩

end Groups

section Scopes

def scopeText : Option (List Char) → List Char
  | none => []
  | some scope => '%' :: scope

theorem toChars_v6 (n : Nat) (scope : Option (List Char)) : (Address.v6 n scope).toChars = v6Text n ++ scopeText scope := by
  cases scope with
  | none => exact (List.append_nil _).symm
  | some scope => rfl

theorem cut_scope {body : List Char} (clean : '%' ∉ body) (scope : Option (List Char)) :
    (body ++ scopeText scope).takeWhile (· != '%') = body ∧ (body ++ scopeText scope).dropWhile (· != '%') = scopeText scope := by
  have all : ∀ c ∈ body, (c != '%') = true := by
    intro c member
    rw [bne_iff_ne]
    rintro rfl
    exact clean member
  rw [List.takeWhile_append_of_pos all, List.dropWhile_append_of_pos all]
  cases scope <;> simp [scopeText]

/-- An address of the sixth version is its groups and behind them a scope, which is not empty and has no percent sign. -/
theorem v6?_eq_some {cs : List Char} {a : Address} : v6? cs = some a ↔ ∃ body groups scope, '%' ∉ body ∧
    v6Groups? body = some groups ∧ (∀ s, scope = some s → s ≠ [] ∧ '%' ∉ s) ∧ cs = body ++ scopeText scope ∧
    a = .v6 (ofDigits 0x10000 groups) scope := by
  constructor
  · intro read
    have split := List.takeWhile_append_dropWhile (p := (· != '%')) (l := cs)
    have clean : '%' ∉ cs.takeWhile (· != '%') := by
      intro member
      exact absurd (List.all_eq_true.mp List.all_takeWhile '%' member) (by decide)
    have sign := List.head?_dropWhile_not (· != '%') cs
    rw [v6?] at read
    cases rest : cs.dropWhile (· != '%') with
    | nil =>
      simp only [rest] at read split
      obtain ⟨n, number, rfl⟩ := Option.map_eq_some_iff.mp read
      obtain ⟨groups, found, rfl⟩ := Option.map_eq_some_iff.mp number
      exact ⟨_, groups, none, clean, found, nofun, split.symm, rfl⟩
    | cons c scope =>
      simp only [rest] at read split sign
      obtain rfl : c = '%' := by simpa using sign
      split at read
      · cases read
      · rename_i named
        obtain ⟨n, number, rfl⟩ := Option.map_eq_some_iff.mp read
        obtain ⟨groups, found, rfl⟩ := Option.map_eq_some_iff.mp number
        refine ⟨_, groups, some scope, clean, found, ?_, split.symm, rfl⟩
        rintro s ⟨⟩
        simpa using named
  · rintro ⟨body, groups, scope, clean, found, named, rfl, rfl⟩
    obtain ⟨front, behind⟩ := cut_scope clean scope
    rw [v6?, front, behind, found]
    cases scope with
    | none => rfl
    | some scope =>
      obtain ⟨filled, apart⟩ := named scope rfl
      simp [scopeText, filled, apart]

end Scopes

end FilterGraph.Address
