import FilterGraph.Json.Printer
import FilterGraph.Json.Reader
import FilterGraph.Proofs.Snapshot.Reading
import FilterGraph.Proofs.Text.Numeral
import Mathlib.Data.Nat.Digits.Defs

namespace FilterGraph

namespace Text

theorem hexPadded_four {n : Nat} (small : n < 0x10000) : ∃ a b c d, (hexPadded 4 n).toList = [a, b, c, d] ∧
    [a, b, c, d].all isHexDigit = true ∧ asciiNumber 16 [a, b, c, d] = n := by
  have short : (Nat.toDigits 16 n).length ≤ 4 := Nat.toDigits_length 16 n 4 (by decide) small
  have four : (hexPadded 4 n).toList.length = 4 := by
    rw [hexPadded, String.toList_ofList, List.length_append, List.length_replicate]
    omega
  have digits : (hexPadded 4 n).toList.all isHexDigit = true := by
    rw [hexPadded, String.toList_ofList, List.all_append, List.all_replicate, Bool.and_eq_true]
    exact ⟨by simp [isHexDigit], List.all_eq_true.mpr (isHexDigit_toDigits n)⟩
  have number : asciiNumber 16 (hexPadded 4 n).toList = n := by
    rw [hexPadded, String.toList_ofList, asciiNumber_zeros, asciiNumber_toDigits 16 n (by decide) (by decide)]
  match same : (hexPadded 4 n).toList, four with
  | [a, b, c, d], _ => exact ⟨a, b, c, d, rfl, same ▸ digits, same ▸ number⟩

end Text

namespace Json

section Strings

theorem takeUnit?_hex {n : Nat} (small : n < 0x10000) (rest : List Char) :
    takeUnit? ((Text.hexPadded 4 n).toList ++ rest) = some (n, rest) := by
  obtain ⟨a, b, c, d, same, digits, number⟩ := Text.hexPadded_four small
  rw [same]
  simp only [List.cons_append, List.nil_append, takeUnit?, digits, number, if_true]

theorem toNat_bounds (c : Char) : c.toNat < 0xD800 ∨ (0xE000 ≤ c.toNat ∧ c.toNat < 0x110000) := by
  have valid := c.valid
  rcases valid with low | ⟨high, top⟩
  · exact Or.inl low
  · exact Or.inr ⟨high, top⟩

theorem takeNumbered?_units (c : Char) (rest : List Char) :
    ∃ units, charUnits c = '\\' :: 'u' :: units ∧ takeNumbered? (units ++ rest) = some (c, rest) := by
  have bounds := toNat_bounds c
  unfold charUnits
  by_cases plane : c.toNat < 0x10000
  · have noHigh : ¬ (0xD800 ≤ c.toNat ∧ c.toNat < 0xDC00) := by omega
    have noLow : ¬ (0xDC00 ≤ c.toNat ∧ c.toNat < 0xE000) := by omega
    rw [if_pos plane]
    refine ⟨_, rfl, ?_⟩
    simp only [takeNumbered?, takeUnit?_hex plane, Option.bind_eq_bind, Option.bind_some, Bool.and_eq_true,
      decide_eq_true_eq, noHigh, noLow, if_false, Char.ofNat_toNat]
    rfl
  · obtain ⟨high, highUnit⟩ : ∃ high, high = 0xD800 + (c.toNat - 0x10000) / 0x400 := ⟨_, rfl⟩
    obtain ⟨low, lowUnit⟩ : ∃ low, low = 0xDC00 + (c.toNat - 0x10000) % 0x400 := ⟨_, rfl⟩
    have isHigh : 0xD800 ≤ high ∧ high < 0xDC00 := by omega
    have isLow : 0xDC00 ≤ low ∧ low < 0xE000 := by omega
    have small : high < 0x10000 ∧ low < 0x10000 := by omega
    have joined : 0x10000 + (high - 0xD800) * 0x400 + (low - 0xDC00) = c.toNat := by omega
    rw [if_neg plane, ← highUnit, ← lowUnit, unitText, unitText, List.cons_append, List.cons_append]
    refine ⟨_, rfl, ?_⟩
    rw [List.append_assoc]
    simp only [takeNumbered?, takeUnit?_hex small.1, Option.bind_eq_bind, Option.bind_some, Bool.and_eq_true,
      decide_eq_true_eq, isHigh, and_self, if_true, List.cons_append, takeUnit?_hex small.2, isLow, joined,
      Char.ofNat_toNat]
    rfl

theorem takeString_escaped (c : Char) (fuel : Nat) (read rest : List Char) :
    takeString (fuel + 1) read (escapedChar .ascii c ++ rest) = takeString fuel (c :: read) rest := by
  obtain ⟨units, escaped, numbered⟩ := takeNumbered?_units c rest
  have byNumber : takeString (fuel + 1) read (charUnits c ++ rest) = takeString fuel (c :: read) rest := by
    rw [escaped, List.cons_append, List.cons_append, takeString, numbered]
    rfl
  have byCode {n : Nat} (code : c.toNat = n) : c = Char.ofNat n := by rw [← code, Char.ofNat_toNat]
  unfold escapedChar
  split
  case isTrue quoted =>
    simp only [Bool.or_eq_true, decide_eq_true_eq] at quoted
    rcases quoted with rfl | rfl <;> rfl
  split
  case isTrue same => subst same; rfl
  split
  case isTrue same => subst same; rfl
  split
  case isTrue same => subst same; rfl
  split
  case isTrue code => rw [byCode code]; rfl
  split
  case isTrue code => rw [byCode code]; rfl
  split
  case isTrue => exact byNumber
  split
  case isTrue => exact byNumber
  case isFalse plain _ _ _ _ _ control _ =>
    simp only [Bool.or_eq_true, decide_eq_true_eq, not_or] at plain
    have fine : (decide (c.toNat < 0x20) || c == '\\') = false := by simp [control, plain.2]
    rw [List.cons_append, List.nil_append, takeString, if_neg (by simp [fine])]
    case x => exact plain.1
    case x_1 => exact fun _ same _ => plain.2 same
    case x_2 => exact fun _ _ same _ => plain.2 same

theorem takeString_written (cs : List Char) (fuel : Nat) (enough : cs.length < fuel) (read rest : List Char) :
    takeString fuel read (cs.flatMap (escapedChar .ascii) ++ '"' :: rest) =
      some (String.ofList (read.reverse ++ cs), rest) := by
  induction cs generalizing fuel read with
  | nil =>
    obtain ⟨fuel, rfl⟩ := Nat.exists_eq_succ_of_ne_zero (Nat.ne_zero_of_lt enough)
    rw [List.append_nil]
    rfl
  | cons c cs ih =>
    obtain ⟨fuel, rfl⟩ := Nat.exists_eq_succ_of_ne_zero (Nat.ne_zero_of_lt enough)
    rw [List.flatMap_cons, List.append_assoc, takeString_escaped, ih fuel (Nat.lt_of_succ_lt_succ enough),
      List.reverse_cons, List.append_assoc, List.singleton_append]

theorem string_toList (s : String) :
    (string .ascii s).toList = '"' :: (s.toList.flatMap (escapedChar .ascii) ++ ['"']) := by
  rw [string, String.toList_ofList, List.cons_append]

/-- What is written tells the two apart and where it ends. -/
def Cut {α : Type} (write : α → List Char) (a b : α) : Prop := ∀ x y, write a ++ x = write b ++ y → a = b ∧ x = y

theorem Cut.of_first {α : Type} {write : α → List Char} {a b : α} {c d : Char} {xs ys : List Char} (left : write a = c :: xs)
    (right : write b = d :: ys) (differ : c ≠ d) : Cut write a b := by
  intro x y same
  rw [left, right] at same
  exact absurd (List.cons.inj same).1 differ

theorem string_cut (s t : String) : Cut (fun s => (string .ascii s).toList) s t := by
  intro x y same
  let fuel := max s.toList.length t.toList.length + 1
  have left := takeString_written s.toList fuel (by omega) [] x
  have right := takeString_written t.toList fuel (by omega) [] y
  simp only [string_toList, List.cons_append, List.append_assoc, List.nil_append, List.cons.injEq, true_and] at same
  rw [same, right] at left
  simpa [eq_comm] using left

end Strings

section Commas

variable {α : Type} {write : α → List Char} {closing : Char}

theorem intercalate_starts (write : α → List Char) (a : α) (rest : List α) (x : List Char) : ∃ more,
    [','].intercalate ((a :: rest).map write) ++ x = write a ++ more := by
  cases rest with
  | nil => exact ⟨x, by rw [List.map_singleton, List.intercalate_singleton]⟩
  | cons b rest =>
    refine ⟨',' :: ([','].intercalate ((b :: rest).map write) ++ x), ?_⟩
    rw [List.map_cons, List.map_cons, List.intercalate_cons_cons, List.append_assoc, List.append_assoc,
      List.singleton_append]

/-- Elements between commas, in front of a bracket that no element starts with. -/
theorem intercalate_cut (apart : closing ≠ ',') {as bs : List α} (cut : ∀ a ∈ as, ∀ b ∈ bs, Cut write a b)
    (left : ∀ a ∈ as, ∃ c rest, write a = c :: rest ∧ c ≠ closing)
    (right : ∀ b ∈ bs, ∃ c rest, write b = c :: rest ∧ c ≠ closing) {x y : List Char}
    (same : [','].intercalate (as.map write) ++ closing :: x = [','].intercalate (bs.map write) ++ closing :: y) :
    as = bs ∧ x = y := by
  induction as generalizing bs with
  | nil =>
    cases bs with
    | nil => exact ⟨rfl, (List.cons.inj same).2⟩
    | cons b bs =>
      obtain ⟨more, goes⟩ := intercalate_starts write b bs (closing :: y)
      obtain ⟨c, rest, starts, differs⟩ := right b List.mem_cons_self
      rw [goes, starts] at same
      exact absurd (List.cons.inj same).1.symm differs
  | cons a as ih =>
    obtain ⟨first, firsts⟩ := List.forall_mem_cons.mp left
    cases bs with
    | nil =>
      obtain ⟨more, goes⟩ := intercalate_starts write a as (closing :: x)
      obtain ⟨c, rest, starts, differs⟩ := first
      rw [goes, starts] at same
      exact absurd (List.cons.inj same).1 differs
    | cons b bs =>
      have here := cut a List.mem_cons_self b List.mem_cons_self
      cases as <;> cases bs <;>
        simp only [List.map_cons, List.map_nil, List.intercalate_singleton, List.intercalate_cons_cons,
          List.append_assoc] at same
      case nil.nil =>
        obtain ⟨rfl, rest⟩ := here _ _ same
        exact ⟨rfl, (List.cons.inj rest).2⟩
      case nil.cons => exact absurd (List.cons.inj (here _ _ same).2).1 apart
      case cons.nil => exact absurd (List.cons.inj (here _ _ same).2).1.symm apart
      case cons.cons a' as b' bs =>
        obtain ⟨rfl, rest⟩ := here _ _ same
        obtain ⟨others, behind⟩ := ih
          (fun a member b other => cut a (List.mem_cons_of_mem _ member) b (List.mem_cons_of_mem _ other)) firsts
          (fun b member => right b (List.mem_cons_of_mem _ member)) (List.cons.inj rest).2
        exact ⟨by rw [others], behind⟩

end Commas

section Values

/-- The data that manifests are written as: texts, lists and records of them. -/
inductive Textual : Value → Prop
  | text (s : String) : Textual (.text s)
  | list {items : List Value} (textual : ∀ item ∈ items, Textual item) : Textual (.list items)
  | record {fields : Params} (textual : ∀ e ∈ fields, Textual e.2) : Textual (.record fields)

def told (fields : Params) : List (String × String) := fields.map fun (name, v) => (name, compact v)

theorem compactItems_eq (items : List Value) : compactItems items = items.map compact := by
  induction items with
  | nil => rfl
  | cons item rest ih => rw [compactItems, ih, List.map_cons]

theorem compactEntries_keyed (fields : Params) : compactEntries fields.keyed = told fields := by
  induction fields with
  | nil => rfl
  | cons first rest ih =>
    rw [Params.keyed, List.map_cons, compactEntries, ← Params.keyed, ih]
    rfl

def entryText (e : String × String) : String := string .ascii e.1 ++ ":" ++ e.2

theorem compact_text (s : String) : (compact (.text s)).toList =
    '"' :: (s.toList.flatMap (escapedChar .ascii) ++ ['"']) := string_toList s

theorem compact_list (items : List Value) : (compact (.list items)).toList =
    '[' :: ([','].intercalate ((items.map compact).map String.toList) ++ [']']) := by
  rw [compact, compactItems_eq, String.toList_append, String.toList_append, String.toList_intercalate]
  rfl

theorem compact_record (fields : Params) : (compact (.record fields)).toList =
    '\x7b' :: ([','].intercalate ((sortedByKey (told fields)).map fun e => (entryText e).toList) ++ ['\x7d']) := by
  rw [Value.record_eq, compact, compactEntries_keyed, String.toList_append, String.toList_append,
    String.toList_intercalate, List.map_map]
  rfl

theorem Textual.opens {v : Value} (textual : Textual v) : ∃ c rest, (compact v).toList = c :: rest ∧ c ≠ ']' := by
  cases textual with
  | text s => exact ⟨'"', _, compact_text s, by decide⟩
  | list _ => exact ⟨'[', _, compact_list _, by decide⟩
  | record _ => exact ⟨'\x7b', _, compact_record _, by decide⟩

theorem list_cut {items others : List Value} (left : ∀ v ∈ items, Textual v) (right : ∀ w ∈ others, Textual w)
    (cut : ∀ v ∈ items, ∀ w ∈ others, Cut String.toList (compact v) (compact w)) {x y : List Char}
    (same : (compact (.list items)).toList ++ x = (compact (.list others)).toList ++ y) :
    items.map compact = others.map compact ∧ x = y := by
  rw [compact_list, compact_list] at same
  simp only [List.cons_append, List.append_assoc, List.nil_append, List.cons.injEq, true_and] at same
  refine intercalate_cut (by decide) (fun s listed t known => ?_)
    (List.forall_mem_map.mpr fun v member => (left v member).opens)
    (List.forall_mem_map.mpr fun w member => (right w member).opens) same
  obtain ⟨v, member, rfl⟩ := List.mem_map.mp listed
  obtain ⟨w, other, rfl⟩ := List.mem_map.mp known
  exact cut v member w other

theorem entryText_cut {d e : String × String} (cut : Cut String.toList d.2 e.2) :
    Cut (fun e => (entryText e).toList) d e := by
  intro x y same
  simp only [entryText, String.toList_append, List.append_assoc] at same
  obtain ⟨key, same⟩ := string_cut _ _ _ _ same
  obtain ⟨value, rest⟩ := cut x y (List.cons.inj same).2
  exact ⟨Prod.ext key value, rest⟩

theorem record_cut {xs ys : Params} (cut : ∀ d ∈ xs, ∀ e ∈ ys, Cut String.toList (compact d.2) (compact e.2))
    {x y : List Char} (same : (compact (.record xs)).toList ++ x = (compact (.record ys)).toList ++ y) :
    sortedByKey (told xs) = sortedByKey (told ys) ∧ x = y := by
  have sorted {fields : Params} {e : String × String} (member : e ∈ sortedByKey (told fields)) :
      ∃ field ∈ fields, e.2 = compact field.2 := by
    obtain ⟨field, listed, rfl⟩ := List.mem_map.mp ((List.mergeSort_perm _ _).subset member)
    exact ⟨field, listed, rfl⟩
  have starts (e : String × String) : ∃ c rest, (entryText e).toList = c :: rest ∧ c ≠ '\x7d' := by
    rw [entryText, String.toList_append, String.toList_append, string_toList]
    exact ⟨'"', _, rfl, by decide⟩
  rw [compact_record, compact_record] at same
  simp only [List.cons_append, List.append_assoc, List.nil_append, List.cons.injEq, true_and] at same
  refine intercalate_cut (by decide) (fun d left e right => ?_) (fun e _ => starts e) (fun e _ => starts e) same
  obtain ⟨field, listed, told⟩ := sorted left
  obtain ⟨other, known, heard⟩ := sorted right
  exact entryText_cut (told ▸ heard ▸ cut field listed other known)

theorem Textual.cut {v w : Value} (left : Textual v) (right : Textual w) :
    Cut String.toList (compact v) (compact w) := by
  -- the first character tells a text, a list and a record apart
  induction left generalizing w with
  | text s =>
    cases right with
    | text t =>
      intro x y same
      obtain ⟨rfl, rest⟩ := string_cut s t x y same
      exact ⟨rfl, rest⟩
    | list _ => exact .of_first (compact_text s) (compact_list _) (by decide)
    | record _ => exact .of_first (compact_text s) (compact_record _) (by decide)
  | @list items textual ih =>
    cases right with
    | text t => exact .of_first (compact_list items) (compact_text t) (by decide)
    | @list others textual' =>
      intro x y same
      obtain ⟨texts, rest⟩ := list_cut textual textual' (fun v member w known => ih v member (textual' w known)) same
      exact ⟨by rw [compact, compact, compactItems_eq, compactItems_eq, texts], rest⟩
    | record _ => exact .of_first (compact_list items) (compact_record _) (by decide)
  | @record fields textual ih =>
    cases right with
    | text t => exact .of_first (compact_record fields) (compact_text t) (by decide)
    | list _ => exact .of_first (compact_record fields) (compact_list _) (by decide)
    | record textual' =>
      intro x y same
      obtain ⟨entries, rest⟩ := record_cut (fun d member e known => ih d member (textual' e known)) same
      exact ⟨String.toList_inj.mp (by rw [compact_record, compact_record, entries]), rest⟩

theorem compact_text_inj {s t : String} : compact (.text s) = compact (.text t) ↔ s = t := by
  constructor
  · intro same
    have texts : (compact (.text s)).toList ++ [] = (compact (.text t)).toList ++ [] := by rw [same]
    rw [compact_text, compact_text, ← string_toList, ← string_toList] at texts
    exact (string_cut s t [] [] texts).1
  · rintro rfl
    rfl

theorem Textual.texts (ss : List String) : Textual (.texts ss) := .list (List.forall_mem_map.mpr fun s _ => .text s)

theorem compact_texts_inj {ss ts : List String} : compact (.texts ss) = compact (.texts ts) ↔ ss = ts := by
  constructor
  · intro same
    have textual (ss : List String) : ∀ v ∈ ss.map Value.text, Textual v := List.forall_mem_map.mpr fun s _ => .text s
    have texts : (compact (.texts ss)).toList ++ [] = (compact (.texts ts)).toList ++ [] := by rw [same]
    obtain ⟨items, -⟩ := list_cut (textual ss) (textual ts)
      (fun v listed w known => (textual ss v listed).cut (textual ts w known)) texts
    have injective : Function.Injective (compact ∘ Value.text) := fun s t same => compact_text_inj.mp same
    rw [List.map_map, List.map_map] at items
    exact List.map_injective_iff.mpr injective items
  · rintro rfl
    rfl

section Records

variable {xs ys : Params} (left : ∀ e ∈ xs, Textual e.2) (right : ∀ e ∈ ys, Textual e.2)

include left right

theorem told_perm (same : compact (.record xs) = compact (.record ys)) : (told xs).Perm (told ys) := by
  have texts : (compact (.record xs)).toList ++ [] = (compact (.record ys)).toList ++ [] := by rw [same]
  obtain ⟨sorted, -⟩ := record_cut (fun d member e known => (left d member).cut (right e known)) texts
  have back : (sortedByKey (told xs)).Perm (told ys) := sorted ▸ List.mergeSort_perm _ _
  exact (List.mergeSort_perm _ _).symm.trans back

end Records

theorem compact_record_of_perm {xs ys : Params} (distinct : (xs.map (·.1)).Nodup) (perm : (told xs).Perm (told ys)) :
    compact (.record xs) = compact (.record ys) := by
  have names : ((told xs).map (·.1)).Nodup := by rwa [told, List.map_map]
  have sorted : sortedByKey (told xs) = sortedByKey (told ys) :=
    @mergeSort_eq_of_perm _ _ _ _ Prod.fst (fun a b => decide_eq_true_iff) _ _ perm
      fun a inLeft b inRight same => List.inj_on_of_nodup_map names inLeft inRight same
  rw [← String.toList_inj, compact_record, compact_record, sorted]

end Values

end Json
end FilterGraph
