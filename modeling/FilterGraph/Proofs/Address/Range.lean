import FilterGraph.Address.Network
import FilterGraph.Proofs.Address.Reading

namespace FilterGraph

namespace Address

def scope? : Address → Option (List Char)
  | .v4 _ => none
  | .v6 _ scope => scope

def numberText : Address → List Char
  | .v4 n => v4Text n
  | .v6 n _ => v6Text n

/-- A number of the address's family, and a scope that ends where the address ends. -/
structure Valid (a : Address) : Prop where
  bound : a.number < 2 ^ a.width
  scope : ∀ s, a.scope? = some s → s ≠ [] ∧ '%' ∉ s ∧ '/' ∉ s

theorem toChars_eq (a : Address) : a.toChars = a.numberText ++ scopeText a.scope? := by
  cases a with
  | v4 n => exact (List.append_nil _).symm
  | v6 n scope => exact toChars_v6 n scope

theorem mem_numberText {a : Address} {c : Char} (member : c ∈ a.numberText) : c ∈ plainChars ∧ c ≠ '%' ∧ c ≠ '/' := by
  cases a with
  | v4 n =>
    rcases mem_v4Text member with rfl | ⟨d, small, rfl⟩
    · decide
    · exact digitChar_plain (by omega)
  | v6 n scope =>
    have inside : c ∈ v6Text n := member
    rcases mem_v6Text inside with rfl | ⟨d, small, rfl⟩
    · decide
    · exact digitChar_plain small

theorem slash_not_mem {a : Address} (valid : a.Valid) : '/' ∉ a.toChars := by
  rw [toChars_eq, List.mem_append, not_or]
  refine ⟨fun member => (mem_numberText member).2.2 rfl, ?_⟩
  cases named : a.scope? with
  | none => exact List.not_mem_nil
  | some s =>
    have clean := (valid.scope s named).2.2
    simp [scopeText, clean]

theorem v4?_valid {cs : List Char} {a : Address} (read : v4? cs = some a) : a.width = 32 ∧ a.scope? = none ∧ a.Valid := by
  obtain ⟨n, number, rfl⟩ := Option.map_eq_some_iff.mp read
  exact ⟨rfl, rfl, (v4Number?_some number).1, nofun⟩

theorem v6?_valid {cs : List Char} {a : Address} (read : v6? cs = some a) (clean : '/' ∉ cs) :
    a.width = 128 ∧ a.Valid ∧ ∀ s, a.scope? = some s → '%' :: s <:+ cs := by
  obtain ⟨body, groups, scope, -, found, named, rfl, rfl⟩ := v6?_eq_some.mp read
  obtain ⟨-, length, small⟩ := v6Groups?_some found
  have bound := ofDigits_lt small
  rw [length] at bound
  have ends : ∀ s, scope = some s → '%' :: s <:+ body ++ scopeText scope := by
    rintro s rfl
    exact List.suffix_append body _
  refine ⟨rfl, ⟨bound, fun s given => ?_⟩, ends⟩
  obtain ⟨filled, single⟩ := named s given
  have slash : '/' ∉ s := fun member => clean ((ends s given).subset (List.mem_cons_of_mem _ member))
  exact ⟨filled, single, slash⟩

theorem v4?_toChars {n : Nat} (valid : (Address.v4 n).Valid) : v4? (Address.v4 n).toChars = some (.v4 n) :=
  Option.map_eq_some_iff.mpr ⟨n, v4Number?_v4Text valid.bound, rfl⟩

theorem v6?_toChars {n : Nat} {scope : Option (List Char)} (valid : (Address.v6 n scope).Valid) :
    v6? (Address.v6 n scope).toChars = some (.v6 n scope) := by
  have clean : '%' ∉ v6Text n := fun member => (mem_numberText (a := .v6 n scope) member).2.1 rfl
  have number : ofDigits 0x10000 (toDigits 0x10000 8 n) = n := by
    rw [ofDigits_toDigits]
    exact Nat.mod_eq_of_lt valid.bound
  refine v6?_eq_some.mpr ⟨v6Text n, _, scope, clean, v6Groups?_v6Text n, ?_, toChars_v6 n scope, ?_⟩
  · intro s given
    obtain ⟨filled, single, -⟩ := valid.scope s given
    exact ⟨filled, single⟩
  · rw [number]

theorem v4?_v6 (n : Nat) (scope : Option (List Char)) : v4? (Address.v6 n scope).toChars = none := by
  rw [v4?, Option.map_eq_none_iff, toChars_v6]
  by_contra found
  obtain ⟨m, read⟩ := Option.ne_none_iff_exists'.mp found
  have colon : ':' ∈ v6Text n ++ scopeText scope := List.mem_append_left _ (v6Groups?_some (v6Groups?_v6Text n)).1
  rcases (v4Number?_some read).2 ':' colon with point | digit
  · cases point
  · cases digit

end Address

namespace Network

def Holds (n : Network) (k : Nat) : Prop :=
  k < 2 ^ n.address.width ∧ k / 2 ^ (n.address.width - n.prefixLength) = n.address.number / 2 ^ (n.address.width - n.prefixLength)

/-- A range is given by its first address. -/
structure Valid (n : Network) : Prop where
  address : n.address.Valid
  length : n.prefixLength ≤ n.address.width
  first : n.address.number % 2 ^ (n.address.width - n.prefixLength) = 0

section Truncation

theorem truncate_width (a : Address) (length : Nat) : (truncate a length).width = a.width := by
  cases a with
  | v4 n => rfl
  | v6 n scope =>
    simp only [truncate]
    split <;> rfl

theorem truncate_number (a : Address) (length : Nat) :
    (truncate a length).number = a.number / 2 ^ (a.width - length) * 2 ^ (a.width - length) := by
  cases a with
  | v4 n => rfl
  | v6 n scope =>
    simp only [truncate]
    split
    · rename_i whole
      exact (Nat.div_mul_cancel (Nat.dvd_of_mod_eq_zero whole)).symm
    · rfl

theorem truncate_scope? (a : Address) (length : Nat) :
    (truncate a length).scope? = if a.number % 2 ^ (a.width - length) = 0 then a.scope? else none := by
  cases a with
  | v4 n => simp [truncate, Address.scope?]
  | v6 n scope =>
    simp only [truncate]
    split
    · rename_i whole
      exact (if_pos whole).symm
    · rename_i cut
      exact (if_neg cut).symm

theorem truncate_of_first {a : Address} {length : Nat} (first : a.number % 2 ^ (a.width - length) = 0) :
    truncate a length = a := by
  cases a with
  | v4 n => exact congrArg Address.v4 (Nat.div_mul_cancel (Nat.dvd_of_mod_eq_zero first))
  | v6 n scope => exact if_pos first

theorem truncate_valid {a : Address} {length : Nat} (valid : a.Valid) (fits : length ≤ a.width) :
    Valid ⟨truncate a length, length⟩ := by
  refine ⟨⟨?_, ?_⟩, ?_, ?_⟩
  · rw [truncate_number, truncate_width]
    exact Nat.lt_of_le_of_lt (Nat.div_mul_le_self ..) valid.bound
  · intro s given
    rw [truncate_scope?] at given
    split at given
    · exact valid.scope s given
    · cases given
  · rwa [truncate_width]
  · simp only [truncate_number, truncate_width]
    exact Nat.mul_mod_left ..

end Truncation

section Reading

theorem length?_le {width length : Nat} {cs : List Char} (read : length? width cs = some length) : length ≤ width := by
  simp only [length?, Option.bind_eq_bind, Option.bind_eq_some_iff, Option.guard_eq_some', Option.pure_def,
    Option.some.injEq, exists_const] at read
  obtain ⟨-, small, rfl⟩ := read
  exact small

theorem maskLength?_le {mask length : Nat} (read : maskLength? mask = some length) : length ≤ 32 :=
  Nat.le_of_lt_succ (List.mem_range.mp (List.mem_of_find?_eq_some read))

theorem maskedLength?_le {cs : List Char} {length : Nat} (read : maskedLength? cs = some length) : length ≤ 32 := by
  obtain ⟨mask, -, read⟩ := Option.bind_eq_some_iff.mp read
  rcases (Option.orElse_eq_some _ _ _).mp read with net | ⟨-, host⟩
  · exact maskLength?_le net
  · exact maskLength?_le host

theorem readV4?_some {cs : List Char} {length? : Option (List Char)} {n : Network} (read : readV4? cs length? = some n) :
    ∃ a length, Address.v4? cs = some a ∧ length ≤ 32 ∧ n = ⟨truncate a length, length⟩ := by
  obtain ⟨a, found, read⟩ := Option.bind_eq_some_iff.mp read
  cases length? with
  | none =>
    cases read
    exact ⟨a, 32, found, Nat.le_refl 32, rfl⟩
  | some digits =>
    obtain ⟨length, fits, read⟩ := Option.bind_eq_some_iff.mp read
    cases read
    refine ⟨a, length, found, ?_, rfl⟩
    rcases (Option.orElse_eq_some _ _ _).mp fits with count | ⟨-, mask⟩
    · exact length?_le count
    · exact maskedLength?_le mask

theorem readV6?_some {cs : List Char} {length? : Option (List Char)} {n : Network} (read : readV6? cs length? = some n) :
    ∃ a length, Address.v6? cs = some a ∧ length ≤ 128 ∧ n = ⟨truncate a length, length⟩ := by
  obtain ⟨a, found, read⟩ := Option.bind_eq_some_iff.mp read
  cases length? with
  | none =>
    cases read
    exact ⟨a, 128, found, Nat.le_refl 128, rfl⟩
  | some digits =>
    obtain ⟨length, fits, read⟩ := Option.bind_eq_some_iff.mp read
    cases read
    exact ⟨a, length, found, length?_le fits, rfl⟩

theorem parts?_some {cs address : List Char} {length? : Option (List Char)} (cut : parts? cs = some (address, length?)) :
    '/' ∉ address ∧ address <+: cs := by
  have joined : ['/'].intercalate (Text.pieces '/' cs) = cs := by
    rw [Text.pieces_eq_splitOn, List.intercalate_splitOn]
  have clean : ∀ part ∈ Text.pieces '/' cs, '/' ∉ part := fun part listed => (Text.of_mem_pieces listed).1
  rw [parts?] at cut
  split at cut
  · rename_i only
    cases cut
    rw [only] at joined clean
    rw [List.intercalate_singleton] at joined
    exact ⟨clean address List.mem_cons_self, joined ▸ List.prefix_refl _⟩
  · rename_i length both
    cases cut
    rw [both] at joined clean
    rw [List.intercalate_cons_cons, List.append_assoc] at joined
    exact ⟨clean address List.mem_cons_self, joined ▸ List.prefix_append _ _⟩
  · cases cut

theorem ofChars?_valid {cs : List Char} {n : Network} (read : ofChars? cs = some n) :
    n.Valid ∧ ∀ s, n.address.scope? = some s → '%' :: s <:+: cs := by
  obtain ⟨⟨address, length?⟩, cut, read⟩ := Option.bind_eq_some_iff.mp read
  obtain ⟨clean, inside⟩ := parts?_some cut
  rcases (Option.orElse_eq_some _ _ _).mp read with v4 | ⟨-, v6⟩
  · obtain ⟨a, length, found, fits, rfl⟩ := readV4?_some v4
    obtain ⟨width, unnamed, valid⟩ := Address.v4?_valid found
    refine ⟨truncate_valid valid (width ▸ fits), fun s given => ?_⟩
    rw [truncate_scope?, unnamed, ite_self] at given
    cases given
  · obtain ⟨a, length, found, fits, rfl⟩ := readV6?_some v6
    obtain ⟨width, valid, ends⟩ := Address.v6?_valid found clean
    refine ⟨truncate_valid valid (width ▸ fits), fun s given => ?_⟩
    rw [truncate_scope?] at given
    split at given
    · exact (ends s given).isInfix.trans inside.isInfix
    · cases given

theorem parts?_alone {cs : List Char} (clean : '/' ∉ cs) : parts? cs = some (cs, none) := by
  rw [parts?, Text.pieces_of_not_mem clean]

theorem parts?_length {cs digits : List Char} (clean : '/' ∉ cs) (plain : '/' ∉ digits) :
    parts? (cs ++ '/' :: digits) = some (cs, some digits) := by
  rw [parts?, Text.pieces_append, Text.pieces_of_not_mem clean, Text.pieces_of_not_mem plain]
  rfl

theorem length?_toDigits {width length : Nat} (fits : length ≤ width) (short : width < 1000) :
    length? width (Nat.toDigits 10 length) = some length := by
  have digits : (Nat.toDigits 10 length).all Char.isDigit = true :=
    List.all_eq_true.mpr fun c member => Nat.isDigit_of_mem_toDigits (by decide) (by decide) member
  have few : (Nat.toDigits 10 length).length ≤ 3 :=
    (Nat.length_toDigits_le_iff (by decide) (by decide)).mpr (by omega)
  have fitting : (Nat.toDigits 10 length).length ≤ 4300 := by omega
  have filled : (Nat.toDigits 10 length).isEmpty = false := by simp
  have value := Text.asciiNumber_toDigits 10 length (by decide) (by decide)
  simp only [length?, guard, filled, digits, fitting, value, fits]
  rfl

theorem ofChars?_eq_readV4? {cs address : List Char} {length? : Option (List Char)} {n : Network}
    (cut : parts? cs = some (address, length?)) (read : readV4? address length? = some n) : ofChars? cs = some n := by
  simp [ofChars?, cut, read]

theorem ofChars?_eq_readV6? {cs address : List Char} {length? : Option (List Char)} {n : Network}
    (cut : parts? cs = some (address, length?)) (other : Address.v4? address = none) (read : readV6? address length? = some n) :
    ofChars? cs = some n := by
  simp [ofChars?, cut, readV4?, other, read]

theorem ofChars?_toChars {n : Network} (valid : n.Valid) : ofChars? n.toChars = some n := by
  obtain ⟨address, length⟩ := n
  have plain : '/' ∉ Nat.toDigits 10 length := fun member =>
    absurd (Nat.isDigit_of_mem_toDigits (by decide) (by decide) member) (by decide)
  have cut := parts?_length (Address.slash_not_mem valid.address) plain
  have whole : truncate address length = address := truncate_of_first valid.first
  cases address with
  | v4 k =>
    have digits : length? 32 (Nat.toDigits 10 length) = some length := length?_toDigits valid.length (by decide)
    apply ofChars?_eq_readV4? cut
    simp [readV4?, Address.v4?_toChars valid.address, digits, whole]
  | v6 k scope =>
    have digits : length? 128 (Nat.toDigits 10 length) = some length := length?_toDigits valid.length (by decide)
    apply ofChars?_eq_readV6? cut (Address.v4?_v6 k scope)
    simp [readV6?, Address.v6?_toChars valid.address, digits, whole]

theorem ofChars?_address {a : Address} (valid : a.Valid) : ofChars? a.toChars = some ⟨a, a.width⟩ := by
  have cut := parts?_alone (Address.slash_not_mem valid)
  have whole : truncate a a.width = a := truncate_of_first (by rw [Nat.sub_self, Nat.pow_zero, Nat.mod_one])
  cases a with
  | v4 k =>
    apply ofChars?_eq_readV4? cut
    change truncate (.v4 k) 32 = .v4 k at whole
    simp [readV4?, Address.v4?_toChars valid, whole, Address.width]
  | v6 k scope =>
    apply ofChars?_eq_readV6? cut (Address.v4?_v6 k scope)
    change truncate (.v6 k scope) 128 = .v6 k scope at whole
    simp [readV6?, Address.v6?_toChars valid, whole, Address.width]

end Reading

section Members

variable {n : Network} (valid : n.Valid)

include valid

theorem Valid.holds_first : n.Holds n.address.number := ⟨valid.address.bound, rfl⟩

theorem Valid.first_le {k : Nat} (held : n.Holds k) : n.address.number ≤ k := by
  have whole := Nat.div_mul_cancel (Nat.dvd_of_mod_eq_zero valid.first)
  rw [← whole, ← held.2]
  exact Nat.div_mul_le_self ..

theorem Valid.holds_second (several : n.prefixLength ≠ n.address.width) : n.Holds (n.address.number + 1) := by
  obtain ⟨rest, unit⟩ : ∃ rest, n.address.width - n.prefixLength = rest + 1 := by
    have fits := valid.length
    exact ⟨n.address.width - n.prefixLength - 1, by omega⟩
  have first := Nat.dvd_of_mod_eq_zero valid.first
  rw [unit] at first
  have same : (n.address.number + 1) / 2 ^ (rest + 1) = n.address.number / 2 ^ (rest + 1) := by
    obtain ⟨count, number⟩ := first
    rw [number, Nat.mul_div_cancel_left _ (Nat.two_pow_pos _), Nat.mul_add_div (Nat.two_pow_pos _),
      Nat.div_eq_of_lt (Nat.one_lt_two_pow (Nat.succ_ne_zero rest)), Nat.add_zero]
  have bound : n.address.number + 1 < 2 ^ n.address.width := by
    have whole : 2 ^ (rest + 1) ∣ 2 ^ n.address.width := Nat.pow_dvd_pow 2 (by omega)
    have even : 2 ∣ 2 ^ (rest + 1) := ⟨2 ^ rest, Nat.pow_succ'⟩
    have below := valid.address.bound
    have numberEven := Nat.dvd_trans even first
    have sizeEven := Nat.dvd_trans even whole
    omega
  refine ⟨bound, ?_⟩
  rw [unit, same]

theorem Valid.single_iff : (∃! k, n.Holds k) ↔ n.prefixLength = n.address.width := by
  constructor
  · rintro ⟨k, -, only⟩
    by_contra several
    have first := only _ valid.holds_first
    have second := only _ (valid.holds_second several)
    omega
  · intro full
    refine ⟨n.address.number, valid.holds_first, fun k held => ?_⟩
    have same := held.2
    rwa [full, Nat.sub_self, Nat.pow_zero, Nat.div_one, Nat.div_one] at same

end Members

end Network

end FilterGraph
