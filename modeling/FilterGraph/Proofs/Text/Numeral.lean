import FilterGraph.Text.DecimalDigit
import Mathlib.Algebra.Group.Nat.Defs
import Mathlib.Data.List.Induction

namespace FilterGraph.Text

def digitValue (c : Char) : Nat :=
  if c.isDigit then c.toNat - '0'.toNat
  else if 'a' ≤ c && c ≤ 'f' then c.toNat - 'a'.toNat + 10
  else if 'A' ≤ c && c ≤ 'F' then c.toNat - 'A'.toNat + 10
  else 0

theorem asciiNumber_eq_foldl (base : Nat) (cs : List Char) :
    asciiNumber base cs = cs.foldl (fun total c => base * total + digitValue c) 0 := rfl

theorem asciiNumber_append_digit (base : Nat) (cs : List Char) (c : Char) :
    asciiNumber base (cs ++ [c]) = base * asciiNumber base cs + digitValue c := by
  rw [asciiNumber_eq_foldl, asciiNumber_eq_foldl, List.foldl_append, List.foldl_cons, List.foldl_nil]

theorem asciiNumber_zeros (base count : Nat) (cs : List Char) :
    asciiNumber base (List.replicate count '0' ++ cs) = asciiNumber base cs := by
  induction count with
  | zero => rfl
  | succ count ih =>
    rw [asciiNumber_eq_foldl] at ih
    rw [asciiNumber_eq_foldl, List.replicate_succ, List.cons_append, List.foldl_cons]
    exact ih

theorem digitValue_digitChar (d : Nat) (small : d < 16) : digitValue d.digitChar = d := by
  have all : ∀ d : Fin 16, digitValue d.val.digitChar = d.val := by decide
  exact all ⟨d, small⟩

theorem asciiNumber_toDigits (base n : Nat) (low : 1 < base) (high : base ≤ 16) :
    asciiNumber base (Nat.toDigits base n) = n := by
  induction n using Nat.strongRecOn with
  | ind n ih =>
    by_cases one : n < base
    · rw [Nat.toDigits_of_lt_base one]
      change base * 0 + digitValue n.digitChar = n
      rw [digitValue_digitChar n (by omega)]
      omega
    · have smaller : n / base < n := Nat.div_lt_self (by omega) low
      have digit : n % base < base := Nat.mod_lt n (by omega)
      rw [Nat.toDigits_of_base_le low (by omega), asciiNumber_append_digit, ih _ smaller,
        digitValue_digitChar _ (by omega)]
      exact Nat.div_add_mod n base

theorem isHexDigit_digitChar (d : Nat) (small : d < 16) : isHexDigit d.digitChar = true := by
  have all : ∀ d : Fin 16, isHexDigit d.val.digitChar = true := by decide
  exact all ⟨d, small⟩

theorem mem_toDigits {base n : Nat} {c : Char} (low : 1 < base) (member : c ∈ Nat.toDigits base n) :
    ∃ d < base, c = d.digitChar := by
  induction n using Nat.strongRecOn with
  | ind n ih =>
    by_cases one : n < base
    · rw [Nat.toDigits_of_lt_base one] at member
      exact ⟨n, one, List.mem_singleton.mp member⟩
    · have smaller : n / base < n := Nat.div_lt_self (by omega) low
      rw [Nat.toDigits_of_base_le low (by omega)] at member
      rcases List.mem_append.mp member with higher | last
      · exact ih (n / base) smaller higher
      · exact ⟨n % base, Nat.mod_lt n (by omega), List.mem_singleton.mp last⟩

theorem isHexDigit_toDigits (n : Nat) : ∀ c ∈ Nat.toDigits 16 n, isHexDigit c = true := by
  intro c member
  obtain ⟨d, small, rfl⟩ := mem_toDigits (by decide) member
  exact isHexDigit_digitChar d small

theorem asciiNumber_decimalPadded (width n : Nat) :
    asciiNumber 10 (decimalPadded width n).toList = n := by
  simp only [decimalPadded, String.toList_ofList]
  rw [asciiNumber_zeros, asciiNumber_toDigits 10 n (by decide) (by decide)]

theorem isDigit_decimalPadded (width n : Nat) : ∀ c ∈ (decimalPadded width n).toList, c.isDigit = true := by
  intro c member
  simp only [decimalPadded, String.toList_ofList, List.mem_append, List.mem_replicate] at member
  rcases member with ⟨-, rfl⟩ | digit
  · rfl
  · exact Nat.isDigit_of_mem_toDigits (by decide) (by decide) digit

theorem decimalPadded_injective (width : Nat) {m n : Nat}
    (same : decimalPadded width m = decimalPadded width n) : m = n := by
  have read := congrArg (fun s : String => asciiNumber 10 s.toList) same
  simpa only [asciiNumber_decimalPadded] using read

section Order

theorem isDigit_value {c : Char} (digit : c.isDigit = true) : c.toNat = 48 + digitValue c ∧ digitValue c ≤ 9 := by
  have range : 48 ≤ c.toNat ∧ c.toNat ≤ 57 := by simpa [Char.isDigit, UInt32.le_iff_toNat_le] using digit
  have zero : '0'.toNat = 48 := rfl
  simp only [digitValue, digit, if_true, zero]
  omega

theorem digitValue_lt (c : Char) : digitValue c < 16 := by
  have letter : ∀ first last : Char, (first ≤ c && c ≤ last) = true → c.toNat ≤ last.toNat := by
    intro first last inside
    simp only [Bool.and_eq_true, decide_eq_true_eq, Char.le_def, UInt32.le_iff_toNat_le] at inside
    exact inside.2
  have lower : 'f'.toNat = 'a'.toNat + 5 := rfl
  have upper : 'F'.toNat = 'A'.toNat + 5 := rfl
  by_cases digit : c.isDigit = true
  · have value := (isDigit_value digit).2
    omega
  · unfold digitValue
    rw [if_neg digit]
    split
    · have bound := letter 'a' 'f' ‹_›
      omega
    · split
      · have bound := letter 'A' 'F' ‹_›
        omega
      · decide

theorem digit_lt_iff {c d : Char} (left : c.isDigit = true) (right : d.isDigit = true) :
    c < d ↔ digitValue c < digitValue d := by
  have order : c < d ↔ c.toNat < d.toNat := UInt32.lt_iff_toNat_lt
  rw [order, (isDigit_value left).1, (isDigit_value right).1]
  omega

theorem digit_eq_iff {c d : Char} (left : c.isDigit = true) (right : d.isDigit = true) :
    c = d ↔ digitValue c = digitValue d := by
  rw [← Char.toNat_inj, (isDigit_value left).1, (isDigit_value right).1]
  omega

theorem asciiNumber_singleton (base : Nat) (c : Char) : asciiNumber base [c] = digitValue c := by
  change base * 0 + digitValue c = digitValue c
  omega

theorem asciiNumber_append (base : Nat) (xs ys : List Char) :
    asciiNumber base (xs ++ ys) = asciiNumber base xs * base ^ ys.length + asciiNumber base ys := by
  induction ys generalizing xs with
  | nil => simp [asciiNumber]
  | cons c rest ih =>
    have here : asciiNumber base (c :: rest) = digitValue c * base ^ rest.length + asciiNumber base rest := by
      rw [← List.singleton_append, ih [c], asciiNumber_singleton]
    have split : xs ++ c :: rest = (xs ++ [c]) ++ rest := by simp
    rw [split, ih, asciiNumber_append_digit, here, List.length_cons, Nat.pow_succ, Nat.add_mul, Nat.mul_comm base,
      Nat.mul_assoc, Nat.mul_comm base, Nat.add_assoc]

theorem asciiNumber_cons (base : Nat) (c : Char) (cs : List Char) :
    asciiNumber base (c :: cs) = digitValue c * base ^ cs.length + asciiNumber base cs := by
  rw [← List.singleton_append, asciiNumber_append, asciiNumber_singleton]

theorem asciiNumber_lt {base : Nat} {cs : List Char} (digits : ∀ c ∈ cs, digitValue c < base) :
    asciiNumber base cs < base ^ cs.length := by
  induction cs with
  | nil => simp [asciiNumber]
  | cons c rest ih =>
    obtain ⟨first, others⟩ := List.forall_mem_cons.mp digits
    have step := Nat.mul_le_mul_right (base ^ rest.length) (Nat.succ_le_of_lt first)
    have below := ih others
    rw [asciiNumber_cons, List.length_cons, Nat.pow_succ, Nat.mul_comm _ base]
    rw [Nat.succ_mul] at step
    omega

theorem decimal_lt {cs : List Char} (digits : ∀ c ∈ cs, c.isDigit = true) : asciiNumber 10 cs < 10 ^ cs.length :=
  asciiNumber_lt fun c member => Nat.lt_succ_of_le (isDigit_value (digits c member)).2

theorem digits_lt_iff {xs ys : List Char} (same : xs.length = ys.length) (left : ∀ c ∈ xs, c.isDigit = true)
    (right : ∀ c ∈ ys, c.isDigit = true) : xs < ys ↔ asciiNumber 10 xs < asciiNumber 10 ys := by
  induction xs generalizing ys with
  | nil =>
    cases ys with
    | nil => decide
    | cons d ys => cases same
  | cons c xs ih =>
    cases ys with
    | nil => cases same
    | cons d ys =>
      obtain ⟨first, xDigits⟩ := List.forall_mem_cons.mp left
      obtain ⟨second, yDigits⟩ := List.forall_mem_cons.mp right
      have lengths : xs.length = ys.length := Nat.succ.inj same
      have xBelow := decimal_lt xDigits
      have yBelow := decimal_lt yDigits
      rw [List.cons_lt_cons_iff, ih lengths xDigits yDigits, digit_lt_iff first second, digit_eq_iff first second,
        asciiNumber_cons, asciiNumber_cons, lengths]
      rw [lengths] at xBelow
      rcases Nat.lt_trichotomy (digitValue c) (digitValue d) with less | equal | more
      · have step := Nat.mul_le_mul_right (10 ^ ys.length) (Nat.succ_le_of_lt less)
        rw [Nat.succ_mul] at step
        omega
      · rw [equal]
        omega
      · have step := Nat.mul_le_mul_right (10 ^ ys.length) (Nat.succ_le_of_lt more)
        rw [Nat.succ_mul] at step
        omega

theorem digits_eq_iff {xs ys : List Char} (same : xs.length = ys.length) (left : ∀ c ∈ xs, c.isDigit = true)
    (right : ∀ c ∈ ys, c.isDigit = true) : xs = ys ↔ asciiNumber 10 xs = asciiNumber 10 ys := by
  constructor
  · intro equal
    rw [equal]
  · intro equal
    have forth := mt (digits_lt_iff same left right).mp (by omega)
    have back := mt (digits_lt_iff same.symm right left).mp (by omega)
    exact List.le_antisymm back forth

/-- A text before the end of a longer one: it comes first unless the longer one begins with something smaller. -/
theorem lt_append_iff {xs ys zs : List Char} (same : xs.length = ys.length) (more : zs ≠ []) :
    xs < ys ++ zs ↔ xs < ys ∨ xs = ys := by
  induction xs generalizing ys with
  | nil =>
    cases ys with
    | nil =>
      cases zs with
      | nil => exact absurd rfl more
      | cons z zs => simp
    | cons d ys => cases same
  | cons c xs ih =>
    cases ys with
    | nil => cases same
    | cons d ys =>
      rw [List.cons_append, List.cons_lt_cons_iff, List.cons_lt_cons_iff, ih (Nat.succ.inj same), List.cons.injEq,
        and_or_left, or_assoc]

theorem asciiNumber_take {cs : List Char} (digits : ∀ c ∈ cs, c.isDigit = true) (count : Nat) :
    asciiNumber 10 (cs.take count) = asciiNumber 10 cs / 10 ^ (cs.length - count) := by
  have split := asciiNumber_append 10 (cs.take count) (cs.drop count)
  have below := decimal_lt fun c member => digits c (List.mem_of_mem_drop (i := count) member)
  rw [List.take_append_drop] at split
  rw [List.length_drop] at split below
  rw [split, Nat.mul_comm, Nat.mul_add_div (Nat.pow_pos (by decide)), Nat.div_eq_of_lt below, Nat.add_zero]

theorem length_decimalPadded_eq (width n : Nat) :
    (decimalPadded width n).length = max width (Nat.toDigits 10 n).length := by
  simp only [decimalPadded, String.length_ofList, List.length_append, List.length_replicate]
  omega

theorem length_decimalPadded_le {width m n : Nat} (le : m ≤ n) :
    (decimalPadded width m).length ≤ (decimalPadded width n).length := by
  have bound := (Nat.length_toDigits_le_iff (b := 10) (n := n) (by decide) Nat.length_toDigits_pos).mp (Nat.le_refl _)
  have digits := (Nat.length_toDigits_le_iff (b := 10) (n := m) (by decide) Nat.length_toDigits_pos).mpr
    (Nat.lt_of_le_of_lt le bound)
  rw [length_decimalPadded_eq, length_decimalPadded_eq]
  omega

theorem length_decimalPadded_small {width n : Nat} (some : 0 < width) (small : n < 10 ^ width) :
    (decimalPadded width n).length = width := by
  have digits := (Nat.length_toDigits_le_iff (b := 10) (by decide) some).mpr small
  rw [length_decimalPadded_eq]
  omega

/-- Of two padded numbers the smaller one comes first unless the larger one is longer and begins with something smaller. -/
theorem decimalPadded_lt_iff {width m n : Nat} (less : m < n) :
    decimalPadded width m < decimalPadded width n ↔
      m ≤ n / 10 ^ ((decimalPadded width n).length - (decimalPadded width m).length) := by
  let xs := (decimalPadded width m).toList
  let ys := (decimalPadded width n).toList
  have xDigits := isDigit_decimalPadded width m
  have yDigits := isDigit_decimalPadded width n
  have xLength : xs.length = (decimalPadded width m).length := String.length_toList
  have yLength : ys.length = (decimalPadded width n).length := String.length_toList
  have le : xs.length ≤ ys.length := by
    rw [xLength, yLength]
    exact length_decimalPadded_le (Nat.le_of_lt less)
  have prefixDigits : ∀ c ∈ ys.take xs.length, c.isDigit = true := fun c member => yDigits c (List.mem_of_mem_take member)
  have same : xs.length = (ys.take xs.length).length := by
    rw [List.length_take]
    omega
  have value : asciiNumber 10 (ys.take xs.length) = n / 10 ^ (ys.length - xs.length) := by
    rw [asciiNumber_take yDigits, asciiNumber_decimalPadded]
  have order : decimalPadded width m < decimalPadded width n ↔ xs < ys := Iff.rfl
  rw [order, ← xLength, ← yLength, ← value]
  rcases Nat.eq_or_lt_of_le le with equal | shorter
  · rw [equal, List.take_length, digits_lt_iff equal xDigits yDigits, asciiNumber_decimalPadded, asciiNumber_decimalPadded]
    omega
  · have more : ys.drop xs.length ≠ [] := by
      rw [← List.length_pos_iff, List.length_drop]
      omega
    have compare : xs < ys ↔ xs < ys.take xs.length ∨ xs = ys.take xs.length := by
      rw [← lt_append_iff same more, List.take_append_drop]
    rw [compare, digits_lt_iff same xDigits prefixDigits, digits_eq_iff same xDigits prefixDigits,
      asciiNumber_decimalPadded]
    omega

end Order

section Scripts

theorem decimalNumber?_append_digit (cs : List Char) (c : Char) : decimalNumber? (cs ++ [c]) =
    (decimalNumber? cs).bind fun total => (decimalDigit? c).map (10 * total + ·) := by
  rw [decimalNumber?, List.foldl_append, List.foldl_cons, List.foldl_nil, ← decimalNumber?]
  cases decimalNumber? cs with
  | none => rfl
  | some total => cases decimalDigit? c <;> rfl

theorem isDecimalDigit_of_number {cs : List Char} {n : Nat} (number : decimalNumber? cs = some n) :
    ∀ c ∈ cs, isDecimalDigit c = true := by
  induction cs using List.reverseRecOn generalizing n with
  | nil => exact fun c member => absurd member List.not_mem_nil
  | append_singleton init c ih =>
    rw [decimalNumber?_append_digit] at number
    obtain ⟨total, before, number⟩ := Option.bind_eq_some_iff.mp number
    obtain ⟨digit, last, -⟩ := Option.map_eq_some_iff.mp number
    refine List.forall_mem_append.mpr ⟨ih before, List.forall_mem_singleton.mpr ?_⟩
    rw [isDecimalDigit, last, Option.isSome_some]

theorem decimalDigit?_ascii {c : Char} (digit : c.isDigit = true) : decimalDigit? c = some (digitValue c) := by
  obtain ⟨value, small⟩ := isDigit_value digit
  have low : 0x30 ≤ c.toNat := by omega
  have high : c.toNat < 0x30 + 10 := by omega
  have found : decimalZeros.find? (fun first => first ≤ c.toNat && c.toNat < first + 10) = some 0x30 := by
    rw [decimalZeros, List.find?_cons_of_pos (by simp [low, high])]
  rw [decimalDigit?, found, Option.map_some, value]
  congr 1
  omega

theorem decimalNumber?_ascii {cs : List Char} (digits : ∀ c ∈ cs, c.isDigit = true) :
    decimalNumber? cs = some (asciiNumber 10 cs) := by
  induction cs using List.reverseRecOn with
  | nil => rfl
  | append_singleton init c ih =>
    obtain ⟨before, last⟩ := List.forall_mem_append.mp digits
    rw [decimalNumber?_append_digit, ih before, decimalDigit?_ascii (last c List.mem_cons_self),
      asciiNumber_append_digit]
    rfl

end Scripts

end FilterGraph.Text
