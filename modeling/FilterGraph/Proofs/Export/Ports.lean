import FilterGraph.Proofs.Export.Listing
import FilterGraph.Proofs.Text.Items
import FilterGraph.Proofs.Text.Numeral

namespace FilterGraph

/-- Decimal digits of any script that write the number of a port, with zeros in front at most five of them. -/
structure PortNumber (cs : List Char) (n : Nat) : Prop where
  filled : cs ≠ []
  short : cs.length ≤ 5
  number : Text.decimalNumber? cs = some n
  port : n ≤ 65535

inductive PortToken : List Char → Nat → Nat → Prop
  | single {cs : List Char} {n : Nat} (port : PortNumber cs n) : PortToken cs n n
  | range {lo hi : List Char} {m n : Nat} (first : PortNumber lo m) (last : PortNumber hi n) :
      PortToken (lo ++ '-' :: hi) m n

structure AsciiPort (cs : List Char) : Prop where
  filled : cs ≠ []
  digits : ∀ c ∈ cs, c.isDigit = true
  port : Text.asciiNumber 10 cs ≤ 65535

/-- What the packet filter reads as a port, or as a range of ports, whose first port is not past its last one. -/
inductive ReadablePorts : List Char → Prop
  | single {cs : List Char} (port : AsciiPort cs) : ReadablePorts cs
  | range {lo hi : List Char} (first : AsciiPort lo) (last : AsciiPort hi)
      (ordered : Text.asciiNumber 10 lo ≤ Text.asciiNumber 10 hi) : ReadablePorts (lo ++ '-' :: hi)

section Tokens

theorem PortNumber.clean {cs : List Char} {n : Nat} (port : PortNumber cs n) : '-' ∉ cs :=
  fun member => absurd (Text.isDecimalDigit_of_number port.number '-' member) (by decide)

theorem portNumber_iff {cs : List Char} : (!cs.isEmpty && cs.length ≤ 5 && cs.all Text.isDecimalDigit &&
    (Text.decimalNumber? cs).any (· ≤ 65535)) = true ↔ ∃ n, PortNumber cs n := by
  simp only [Bool.and_eq_true, Bool.not_eq_true', List.isEmpty_eq_false_iff, decide_eq_true_eq, List.all_eq_true,
    Option.any_eq_true]
  constructor
  · rintro ⟨⟨⟨filled, short⟩, -⟩, n, number, port⟩
    exact ⟨n, filled, short, number, port⟩
  · rintro ⟨n, filled, short, number, port⟩
    exact ⟨⟨⟨filled, short⟩, Text.isDecimalDigit_of_number number⟩, n, number, port⟩

theorem isPortToken_iff {token : String} : isPortToken token = true ↔ ∃ m n, PortToken token.toList m n := by
  rw [isPortToken]
  generalize token.toList = cs
  rw [Bool.and_eq_true, decide_eq_true_eq, List.all_eq_true]
  simp only [portNumber_iff]
  constructor
  · rintro ⟨few, ports⟩
    have joined : ['-'].intercalate (Text.pieces '-' cs) = cs := by
      rw [Text.pieces_eq_splitOn, List.intercalate_splitOn]
    match cut : Text.pieces '-' cs with
    | [] => exact absurd cut (Text.pieces_ne_nil '-' _)
    | [part] =>
      rw [cut] at joined ports
      obtain ⟨n, port⟩ := ports part List.mem_cons_self
      rw [← joined, List.intercalate_singleton]
      exact ⟨n, n, .single port⟩
    | [lo, hi] =>
      rw [cut] at joined ports
      obtain ⟨m, first⟩ := ports lo List.mem_cons_self
      obtain ⟨n, last⟩ := ports hi (List.mem_cons_of_mem lo List.mem_cons_self)
      rw [← joined, List.intercalate_cons_cons, List.intercalate_singleton, List.append_assoc]
      exact ⟨m, n, .range first last⟩
    | _ :: _ :: _ :: _ =>
      rw [cut] at few
      simp at few
  · rintro ⟨m, n, token⟩
    cases token with
    | single port =>
      rw [Text.pieces_of_not_mem port.clean]
      exact ⟨by simp, List.forall_mem_singleton.mpr ⟨m, port⟩⟩
    | range first last =>
      rw [Text.pieces_append, Text.pieces_of_not_mem first.clean, Text.pieces_of_not_mem last.clean]
      exact ⟨by simp, List.forall_mem_cons.mpr ⟨⟨m, first⟩, List.forall_mem_singleton.mpr ⟨n, last⟩⟩⟩

theorem AsciiPort.clean {cs : List Char} (port : AsciiPort cs) : '-' ∉ cs :=
  fun member => absurd (port.digits '-' member) (by decide)

theorem AsciiPort.portNumber {cs : List Char} (port : AsciiPort cs) (short : cs.length ≤ 5) :
    PortNumber cs (Text.asciiNumber 10 cs) :=
  ⟨port.filled, short, Text.decimalNumber?_ascii port.digits, port.port⟩

theorem PortNumber.ascii {cs : List Char} {n : Nat} (port : PortNumber cs n) (digits : ∀ c ∈ cs, c.isDigit = true) :
    AsciiPort cs ∧ Text.asciiNumber 10 cs = n := by
  have same := Option.some.inj ((Text.decimalNumber?_ascii digits).symm.trans port.number)
  exact ⟨⟨port.filled, digits, same ▸ port.port⟩, same⟩

theorem readablePorts_iff {token : List Char} : ReadablePorts token ↔ AsciiPort token ∨ ∃ lo hi, token = lo ++ '-' :: hi ∧
    AsciiPort lo ∧ AsciiPort hi ∧ Text.asciiNumber 10 lo ≤ Text.asciiNumber 10 hi := by
  constructor
  · intro readable
    cases readable with
    | single port => exact Or.inl port
    | range first last ordered => exact Or.inr ⟨_, _, rfl, first, last, ordered⟩
  · rintro (port | ⟨lo, hi, rfl, first, last, ordered⟩)
    · exact .single port
    · exact .range first last ordered

theorem PortToken.readable_iff {token : List Char} {first last : Nat} (taken : PortToken token first last) :
    ReadablePorts token ↔ (∀ c ∈ token, c = '-' ∨ c.isDigit = true) ∧ first ≤ last := by
  cases taken with
  | @single cs n port =>
    constructor
    · intro readable
      refine ⟨fun c member => ?_, Nat.le_refl _⟩
      rcases readablePorts_iff.mp readable with alone | ⟨lo, hi, rfl, -⟩
      · exact Or.inr (alone.digits c member)
      · exact absurd (List.mem_append_right lo List.mem_cons_self) port.clean
    · rintro ⟨plain, -⟩
      refine .single (port.ascii fun c member => (plain c member).resolve_left ?_).1
      rintro rfl
      exact port.clean member
  | @range lo hi m n first last =>
    constructor
    · intro readable
      rcases readablePorts_iff.mp readable with alone | ⟨lower, upper, same, low, high, ordered⟩
      · exact absurd (List.mem_append_right lo List.mem_cons_self) alone.clean
      · have cut := congrArg (Text.pieces '-') same
        rw [Text.pieces_append, Text.pieces_append, Text.pieces_of_not_mem first.clean, Text.pieces_of_not_mem last.clean,
          Text.pieces_of_not_mem low.clean, Text.pieces_of_not_mem high.clean] at cut
        obtain ⟨rfl, rfl⟩ : lo = lower ∧ hi = upper := by simpa using cut
        refine ⟨fun c member => ?_, ?_⟩
        · rw [List.mem_append, List.mem_cons] at member
          rcases member with front | here | back
          · exact Or.inr (low.digits c front)
          · exact Or.inl here
          · exact Or.inr (high.digits c back)
        · rwa [← (first.ascii low.digits).2, ← (last.ascii high.digits).2]
    · rintro ⟨plain, ordered⟩
      obtain ⟨front, back⟩ := List.forall_mem_append.mp plain
      have lower := first.ascii fun c member => (front c member).resolve_left fun sign => first.clean (sign ▸ member)
      have upper := last.ascii fun c member =>
        (back c (List.mem_cons_of_mem _ member)).resolve_left fun sign => last.clean (sign ▸ member)
      exact .range lower.1 upper.1 (by rwa [lower.2, upper.2])

theorem ReadablePorts.taken {token : List Char} (readable : ReadablePorts token)
    (short : ∀ part ∈ Text.pieces '-' token, part.length ≤ 5) : ∃ first last, PortToken token first last := by
  cases readable with
  | single port =>
    rw [Text.pieces_of_not_mem port.clean] at short
    exact ⟨_, _, .single (port.portNumber (short _ List.mem_cons_self))⟩
  | range first last ordered =>
    rw [Text.pieces_append, Text.pieces_of_not_mem first.clean, Text.pieces_of_not_mem last.clean] at short
    obtain ⟨lo, hi⟩ := List.forall_mem_cons.mp short
    exact ⟨_, _, .range (first.portNumber lo) (last.portNumber (hi _ List.mem_cons_self))⟩

end Tokens

namespace Builtin
variable {side : Side} {node : NodeView}

theorem ports_expression_ok {text expression : String} : (Criterion.ports side).expression text = .ok expression ↔
    listItems text ≠ [] ∧ (∀ token ∈ listItems text, ∃ first last, PortToken token.toList first last) ∧
      expression = s!"th {side.portSelector} {itemSet (listItems text)}" := by
  have taken : (∀ token ∈ listItems text, ∃ first last, PortToken token.toList first last) ↔
      (listItems text).find? (fun token => !isPortToken token) = none := by
    simp only [← isPortToken_iff, List.find?_eq_none, Bool.not_eq_true', Bool.not_eq_false]
  rw [taken, Criterion.expression]
  cases items : listItems text with
  | nil => simp [throw, throwThe, MonadExceptOf.throw, Bind.bind, Except.bind]
  | cons token rest =>
    simp only [List.isEmpty_cons, Bool.false_eq_true, if_false, ne_eq, reduceCtorEq, not_false_eq_true, true_and]
    cases (token :: rest).find? fun token => !isPortToken token with
    | none => simp [Pure.pure, Except.pure, eq_comm]
    | some other => simp [throw, throwThe, MonadExceptOf.throw]

theorem ports_given {tokens : List String} (any : tokens ≠ []) :
    (∃ text, (Criterion.ports side).param.given node.params = .ok text ∧ listItems text = tokens) ↔
      ∃ value text, node.params.get? "ports" = some value ∧ value.isNull = false ∧ value.written = .ok text ∧
        ListsItems text tokens := by
  have nothing : listItems "" = [] := rfl
  have named : (Criterion.ports side).param.name = "ports" := by cases side <;> rfl
  have unset : (Criterion.ports side).param.default? = none := by cases side <;> rfl
  constructor
  · rintro ⟨text, given, listed⟩
    rw [Param.given_ok_iff, named, unset] at given
    rcases given with ⟨value, whole, found, filled, written, rfl⟩ | ⟨-, -, -, rfl⟩ | ⟨-, rfl⟩
    · exact ⟨value, whole, found, filled, written, listItems_iff.mp ((listItems_trim whole).symm.trans listed)⟩
    all_goals exact absurd (listed.symm.trans nothing) any
  · rintro ⟨value, text, found, filled, written, listed⟩
    have given : (Criterion.ports side).param.given node.params = .ok (Text.trim text) :=
      Param.given_ok_iff.mpr (.inl ⟨value, text, named ▸ found, filled, written, rfl⟩)
    exact ⟨Text.trim text, given, (listItems_trim text).trans (listItems_iff.mpr listed)⟩

def portListing (side : Side) (header chain : String) (tokens : List String) (onMatch otherwise : Verdict) : Listing :=
  { lines := [.text header, .rule ⟨chain, .expression s!"th {side.portSelector} {itemSet tokens}", onMatch⟩,
      .rule ⟨chain, .always, otherwise⟩] }

/-- A port filter is emitted exactly for a list of at least one port or range of ports, which its rule has in order. Of these
    the packet filter reads those in ASCII digits whose bounds are in order, and all those in at most five digits are taken. -/
theorem port_filter_tokens (side : Side) (node : NodeView) (incoming outgoing : List Connection) (site : Site) :
    (∀ f, (filter (.ports side)).nodeType.emit node incoming outgoing site = .ok f ↔
      ∃ value text tokens header chain onMatch otherwise, node.params.get? "ports" = some value ∧ value.isNull = false ∧
        value.written = .ok text ∧ ListsItems text tokens ∧ tokens ≠ [] ∧
        (∀ token ∈ tokens, ∃ first last, PortToken token.toList first last) ∧
        node.header (filter (.ports side)).displayName (filter (.ports side)).typeId = .ok header ∧
        site.chain node.id = .ok chain ∧ site.portVerdict outgoing "match" = .ok onMatch ∧
        site.portVerdict outgoing "non-match" = .ok otherwise ∧
        f = (portListing side header chain tokens onMatch otherwise).fragment) ∧
    (∀ token first last, PortToken token first last →
      (ReadablePorts token ↔ (∀ c ∈ token, c = '-' ∨ c.isDigit = true) ∧ first ≤ last)) ∧
    ∀ token, ReadablePorts token → (∀ part ∈ Text.pieces '-' token, part.length ≤ 5) →
      ∃ first last, PortToken token first last := by
  refine ⟨fun f => ⟨fun emitted => ?_, ?_⟩, fun _ _ _ taken => taken.readable_iff, fun _ readable => readable.taken⟩
  · obtain ⟨l, listed, rfl⟩ := map_ok emitted
    obtain ⟨header, chain, expression, onMatch, otherwise, headed, own, said, matching, others, rfl⟩ :=
      filterListing_iff.mp listed
    obtain ⟨text, given, -, said⟩ := filterExpression_ok.mp said
    obtain ⟨any, taken, rfl⟩ := ports_expression_ok.mp said
    obtain ⟨value, whole, found, filled, written, lists⟩ := (ports_given any).mp ⟨text, given, rfl⟩
    exact ⟨value, whole, _, header, chain, onMatch, otherwise, found, filled, written, lists, any, taken, headed, own,
      matching, others, rfl⟩
  · rintro ⟨value, whole, tokens, header, chain, onMatch, otherwise, found, filled, written, lists, any, taken, headed, own,
      matching, others, rfl⟩
    obtain ⟨text, given, rfl⟩ := (ports_given any).mpr ⟨value, whole, found, filled, written, lists⟩
    have some : text ≠ "" := by
      rintro rfl
      exact any rfl
    have said := filterExpression_ok.mpr ⟨text, given, some, ports_expression_ok.mpr ⟨any, taken, rfl⟩⟩
    have listed := filterListing_iff.mpr
      ⟨header, chain, _, onMatch, otherwise, headed, own, said, matching, others, rfl⟩
    show (filterListing (.ports side) node outgoing site).map Listing.fragment = _
    rw [listed]
    rfl

theorem unreadable_ports_emitted :
    ∃ (site : Site) (f : Fragment) (digit range : List Char),
      (filter (.ports .source)).nodeType.emit ⟨"n", [("ports", .text "٣, 80-22")]⟩ [] [] site = .ok f ∧
      f.script = "# n: Source Port Filter (core:source_port_filter)\n" ++
        "\"$NFT\" add rule $TABLE n 'th sport \x7b ٣, 80-22 \x7d return'\n" ++ "\"$NFT\" add rule $TABLE n return" ∧
      digit = "٣".toList ∧ range = "80-22".toList ∧ PortToken digit 3 3 ∧ PortToken range 80 22 ∧
      ¬ ReadablePorts digit ∧ ¬ ReadablePorts range := by
  let site : Site := { chains := [("n", "n")], files := .empty (Path.ofText "/") }
  let node : NodeView := ⟨"n", [("ports", .text "٣, 80-22")]⟩
  obtain ⟨emits, readable, -⟩ := port_filter_tokens .source node [] [] site
  have digit : PortToken "٣".toList 3 3 := .single ⟨by decide, by decide, by decide, by decide⟩
  have lower : PortNumber "80".toList 80 := ⟨by decide, by decide, by decide, by decide⟩
  have upper : PortNumber "22".toList 22 := ⟨by decide, by decide, by decide, by decide⟩
  have range : PortToken "80-22".toList 80 22 := .range lower upper
  have taken : ∀ token ∈ ["٣", "80-22"], ∃ first last, PortToken token.toList first last :=
    List.forall_mem_cons.mpr ⟨⟨3, 3, digit⟩, List.forall_mem_singleton.mpr ⟨80, 22, range⟩⟩
  have listed : ListsItems "٣, 80-22" ["٣", "80-22"] := listItems_iff.mp (by decide)
  have emitted := (emits _).mpr ⟨_, _, _, "# n: Source Port Filter (core:source_port_filter)", "n", .leave, .leave,
    rfl, rfl, rfl, listed, List.cons_ne_nil _ _, taken, by decide, rfl, rfl, rfl, rfl⟩
  refine ⟨site, _, _, _, emitted, by decide +kernel, rfl, rfl, digit, range, fun read => ?_, fun read => ?_⟩
  · have plain := ((readable _ _ _ digit).mp read).1 '٣' List.mem_cons_self
    exact absurd plain (by decide)
  · exact absurd ((readable _ _ _ range).mp read).2 (by decide)

end Builtin
end FilterGraph
