import FilterGraph.Proofs.Address.Range
import FilterGraph.Proofs.Entries
import FilterGraph.Proofs.Export.Listing

namespace FilterGraph

section Parameters

theorem Param.resolve_ok {declared : List Param} {params : Params} {values : Entries String String}
    (distinct : (declared.map (·.name)).Nodup) (resolved : Param.resolve declared params = .ok values) :
    ∀ p ∈ declared, ∃ text, p.given params = .ok text ∧ values.get? p.name = some text ∧ (p.required = true → text ≠ "") := by
  induction declared using List.reverseRecOn generalizing values with
  | nil => nofun
  | append_singleton before p ih =>
    rw [List.map_append, List.map_singleton, List.nodup_append] at distinct
    obtain ⟨distinct, -, apart⟩ := distinct
    rw [Param.resolve, List.foldlM_append] at resolved
    obtain ⟨found, earlier, resolved⟩ := bind_ok resolved
    rw [List.foldlM_cons] at resolved
    obtain ⟨found', last, done⟩ := bind_ok resolved
    cases done
    obtain ⟨text, read, last⟩ := bind_ok last
    by_cases lacking : (text.isEmpty && p.required) = true
    · rw [if_pos lacking] at last
      cases last
    · rw [if_neg lacking] at last
      cases last
      intro q member
      rw [Entries.get?_set]
      rcases List.mem_append.mp member with listed | here
      · have other : q.name ≠ p.name := apart q.name (List.mem_map_of_mem listed) p.name List.mem_cons_self
        rw [if_neg other]
        exact ih distinct earlier q listed
      · obtain rfl := List.mem_singleton.mp here
        refine ⟨text, mapError_ok.mp read, if_pos rfl, ?_⟩
        rintro required rfl
        exact lacking (by rw [required]; rfl)

theorem Builtin.params_distinct (b : Builtin) : (b.params.map (·.name)).Nodup := by
  cases b with
  | filter criterion => exact List.nodup_singleton _
  | nat side => cases side <;> exact List.nodup_singleton _
  | addressList => decide
  | _ => exact List.nodup_nil

theorem Builtin.resolve_ok {b : Builtin} {node : NodeView} {values : Entries String String}
    (resolved : b.resolve node = .ok values) {p : Param} (declared : p ∈ b.params) :
    ∃ text, p.given node.params = .ok text ∧ values.get? p.name = some text := by
  obtain ⟨text, given, found, -⟩ := Param.resolve_ok b.params_distinct (mapError_ok.mp resolved) p declared
  exact ⟨text, given, found⟩

end Parameters

section Ranges

theorem networks_ok {value : String} {found : List Network} (read : networks value = .ok found) :
    List.Forall₂ (fun token n => Network.ofText? token = some n) (listItems value) found := by
  obtain ⟨all, each, read⟩ := bind_ok read
  have related : List.Forall₂ (fun token n => Network.ofText? token = some n) (listItems value) all := by
    refine (mapM_ok each).imp fun token n done => ?_
    split at done
    · cases done
      assumption
    · cases done
  split at read
  · cases read
  · split at read
    · cases read
      exact related
    · cases read

theorem networks_family {value : String} {found : List Network} (read : networks value = .ok found) {n : Network}
    (listed : n ∈ found) : n.isV4 = found.all Network.isV4 := by
  obtain ⟨all, -, read⟩ := bind_ok read
  split at read
  · cases read
  · rename_i first rest
    split at read
    · rename_i alike
      cases read
      have same : ∀ m ∈ first :: rest, m.isV4 = first.isV4 := by
        refine List.forall_mem_cons.mpr ⟨rfl, fun m member => ?_⟩
        exact eq_of_beq (List.all_eq_true.mp alike m member)
      rw [same n listed]
      cases family : first.isV4 with
      | true => exact (List.all_eq_true.mpr fun m member => (same m member).trans family).symm
      | false => rw [List.all_cons, family, Bool.false_and]
    · cases read

theorem natStatement_eq (side : Side) (mark : Int) {target : Network} (valid : target.Valid) :
    Builtin.natStatement side mark target =
      s!"meta mark {markText mark} {side.natKeyword} {familyKeyword target.isV4} to {String.ofList target.address.toChars}" := by
  have clean : ∀ c ∈ target.address.toChars, (c != '/') = true := by
    intro c member
    rw [bne_iff_ne]
    rintro rfl
    exact Address.slash_not_mem valid.address member
  have cut : target.toChars.takeWhile (· != '/') = target.address.toChars := by
    rw [Network.toChars, List.takeWhile_append_of_pos clean, List.takeWhile_cons_of_neg (by decide), List.append_nil]
  exact congrArg (fun cs =>
    s!"meta mark {markText mark} {side.natKeyword} {familyKeyword target.isV4} to {String.ofList cs}") cut

end Ranges

section Translation

def Side.natParam (side : Side) : Param :=
  { name := "address", displayName := match side with | .source => "Send packet from" | .destination => "Direct packet to" }

theorem nat_params (side : Side) : (Builtin.nat side).params = [side.natParam] := by cases side <;> rfl

theorem natListing_target {side : Side} {node : NodeView} {outgoing : List Connection} {site : Site} {l : Listing}
    (listed : Builtin.natListing side node outgoing site = .ok l) :
    ∃ value token target address header chain next, side.natParam.given node.params = .ok value ∧ listItems value = [token] ∧
      Network.ofText? token = some target ∧ address = String.ofList target.address.toChars ∧
      l = { lines := [.text header, .rule ⟨chain, .always, .mark site.mark⟩, .rule ⟨chain, .always, next⟩]
            nat := [(side.hook,
              [s!"meta mark {markText site.mark} {side.natKeyword} {familyKeyword target.isV4} to {address}"])] } := by
  obtain ⟨header, chain, values, target, next, -, -, resolved, read, -, rfl⟩ := Builtin.natListing_parts listed
  have declared : side.natParam ∈ (Builtin.nat side).params := by
    rw [nat_params]
    exact List.mem_cons_self
  obtain ⟨value, given, found⟩ := Builtin.resolve_ok resolved declared
  have held : (values.get? "address").getD "" = value := congrArg (·.getD "") found
  rw [held] at read
  obtain ⟨token, rest, single, last, items⟩ := List.forall₂_cons_right_iff.mp (networks_ok read)
  obtain rfl := List.forall₂_nil_right_iff.mp last
  refine ⟨value, token, target, _, header, chain, next, given, items, single, rfl, ?_⟩
  rw [natStatement_eq side site.mark (Network.ofChars?_valid single).1]

/-- A NAT node sends packets to the first address of the one range that it is given, which need not hold that address alone. -/
theorem nat_target {side : Side} {node : NodeView} {incoming outgoing : List Connection} {site : Site} {f : Fragment}
    (emitted : (Builtin.nat side).nodeType.emit node incoming outgoing site = .ok f) :
    ∃ value token target address, side.natParam.given node.params = .ok value ∧ listItems value = [token] ∧
      Network.ofText? token = some target ∧ address = String.ofList target.address.toChars ∧
      f.nat = [(side.hook, [s!"meta mark {markText site.mark} {side.natKeyword} {familyKeyword target.isV4} to {address}"])] ∧
      Network.ofText? address = some ⟨target.address, target.address.width⟩ ∧
      target.Holds target.address.number ∧ (∀ k, target.Holds k → target.address.number ≤ k) ∧
      ((∃! k, target.Holds k) ↔ target.prefixLength = target.address.width) := by
  obtain ⟨l, listed, rfl⟩ := map_ok emitted
  obtain ⟨value, token, target, address, header, chain, next, given, items, single, rfl, rfl⟩ := natListing_target listed
  have valid := (Network.ofChars?_valid single).1
  have again : Network.ofText? (String.ofList target.address.toChars) = some ⟨target.address, target.address.width⟩ := by
    rw [Network.ofText?, String.toList_ofList, Network.ofChars?_address valid.address]
  exact ⟨value, token, target, _, given, items, single, rfl, rfl, again, valid.holds_first, fun k => valid.first_le,
    valid.single_iff⟩

theorem host_bits_dropped :
    ∃ (site : Site) (f : Fragment) (target : Network),
      (Builtin.nat .source).nodeType.emit ⟨"n", [("address", .text "192.0.2.5/24")]⟩ [] [] site = .ok f ∧
      f.nat = [("postrouting", ["meta mark 0x1 snat ip to 192.0.2.0"])] ∧
      Network.ofText? "192.0.2.5/24" = some target ∧ target.Holds 0xC0000205 ∧ ¬ ∃! k, target.Holds k := by
  let site : Site := { chains := [("n", "n")], mark := 1, files := .empty (Path.ofText "/") }
  let node : NodeView := ⟨"n", [("address", .text "192.0.2.5/24")]⟩
  have statements : ((Builtin.nat .source).nodeType.emit node [] [] site).toOption.map (·.nat) =
      some [("postrouting", ["meta mark 0x1 snat ip to 192.0.2.0"])] := by decide +kernel
  cases emitted : (Builtin.nat .source).nodeType.emit node [] [] site with
  | error e =>
    rw [emitted] at statements
    cases statements
  | ok f =>
    rw [emitted] at statements
    obtain ⟨value, token, target, address, given, items, read, -, -, -, -, -, single⟩ := nat_target emitted
    have same : Side.source.natParam.given node.params = .ok "192.0.2.5/24" := by decide
    cases same.symm.trans given
    have tokens : listItems "192.0.2.5/24" = ["192.0.2.5/24"] := by decide
    cases tokens.symm.trans items
    have range : Network.ofText? "192.0.2.5/24" = some ⟨.v4 0xC0000200, 24⟩ := by decide +kernel
    cases range.symm.trans read
    refine ⟨site, f, _, emitted, Option.some.inj statements, read, ⟨by decide, by decide⟩, ?_⟩
    rw [single]
    decide

end Translation

section Placement

namespace Network

/-- A text shows the address of the range that a token names: it is read as that address again, it is plain but for a scope,
    and the scope stands in the token. -/
structure Shown (token : String) (text : List Char) (n : Network) : Prop where
  named : ofText? token = some n
  again : ∃ m, ofChars? text = some m ∧ m.address = n.address
  parts : ∃ front back, text = front ++ Address.scopeText n.address.scope? ++ back ∧ ∀ c ∈ front ++ back, c ∈ Address.plainChars
  scope : ∀ s, n.address.scope? = some s → '%' :: s <:+: token.toList

def IsOf (isV4 : Bool) (text : List Char) : Prop := ∃ n, ofChars? text = some n ∧ n.isV4 = isV4

theorem Shown.isOf {token : String} {text : List Char} {n : Network} (shown : Shown token text n) : IsOf n.isV4 text := by
  obtain ⟨m, read, same⟩ := shown.again
  exact ⟨m, read, by rw [isV4, isV4, same]⟩

theorem shown_address {token : String} {n : Network} (named : ofText? token = some n) : Shown token n.address.toChars n := by
  obtain ⟨valid, scope⟩ := ofChars?_valid named
  refine ⟨named, ⟨_, ofChars?_address valid.address, rfl⟩, ⟨n.address.numberText, [], ?_, ?_⟩, scope⟩
  · rw [List.append_nil, Address.toChars_eq]
  · rw [List.append_nil]
    exact fun c member => (Address.mem_numberText member).1

theorem shown_range {token : String} {n : Network} (named : ofText? token = some n) : Shown token n.toChars n := by
  obtain ⟨valid, scope⟩ := ofChars?_valid named
  refine ⟨named, ⟨n, ofChars?_toChars valid, rfl⟩, ⟨n.address.numberText, '/' :: Nat.toDigits 10 n.prefixLength, ?_, ?_⟩, scope⟩
  · rw [toChars, Address.toChars_eq]
  · rw [List.forall_mem_append, List.forall_mem_cons]
    refine ⟨fun c member => (Address.mem_numberText member).1, by decide, fun c member => ?_⟩
    obtain ⟨d, small, rfl⟩ := Text.mem_toDigits (by decide) member
    exact (Address.digitChar_plain (by omega)).1

theorem Shown.plain_iff {token : String} {text : List Char} {n : Network} (shown : Shown token text n) :
    (∀ c ∈ text, c ∈ Address.plainChars) ↔ n.address.scope? = none := by
  obtain ⟨front, back, rfl, plain⟩ := shown.parts
  obtain ⟨before, after⟩ := List.forall_mem_append.mp plain
  rw [List.forall_mem_append, List.forall_mem_append, and_iff_left after, and_iff_right before]
  cases n.address.scope? with
  | none => simp [Address.scopeText]
  | some s =>
    have sign : '%' ∉ Address.plainChars := by decide
    simp [Address.scopeText, sign]

end Network

def AddressList.tokens (lines : List String) : List String := (lines.map lineText).filter fun token => !token.isEmpty

theorem AddressList.read_ok {path : String} {number : Nat} {lines : List String} {l : AddressList}
    (done : read path number lines = .ok l) :
    ∃ found, List.Forall₂ (fun token n => Network.ofText? token = some n) (tokens lines) found ∧
      l.v4 = found.filter (·.isV4) ∧ l.v6 = found.filter (!·.isV4) := by
  induction lines generalizing number l with
  | nil =>
    cases done
    exact ⟨[], .nil, rfl, rfl⟩
  | cons line rest ih =>
    rw [read] at done
    split at done
    · rename_i blank
      obtain ⟨found, related, parts⟩ := ih done
      refine ⟨found, ?_, parts⟩
      rw [tokens, List.map_cons, List.filter_cons_of_neg (by simpa using blank)]
      exact related
    · rename_i filled
      split at done
      · cases done
      · rename_i n named
        obtain ⟨later, known, done⟩ := bind_ok done
        obtain ⟨found, related, v4, v6⟩ := ih known
        refine ⟨n :: found, ?_, ?_⟩
        · rw [tokens, List.map_cons, List.filter_cons_of_pos (by simpa using filled)]
          exact .cons named related
        · cases done
          cases family : n.isV4 <;> simp [family, v4, v6]

theorem AddressList.load_ok {site : Site} {node path : String} {l : AddressList} (done : load site node path = .ok l) :
    ∃ text, site.files.readText (Path.ofText path) = .ok text ∧ read path 0 (Text.lines (String.ofList text)) = .ok l := by
  unfold load at done
  split at done
  · split at done
    · split at done
      · cases done
      · split at done <;> cases done
    · split at done
      · cases done
      · cases done
      · cases done
      · rename_i text held
        exact ⟨text, held, mapError_ok.mp done⟩
  · cases done

namespace Builtin

def takesAddresses : Builtin → Bool
  | .filter (.address _) | .addressList | .nat _ => true
  | _ => false

/-- What a node says of addresses: the items of its parameter, or the lines of the list file that the parameter names. -/
inductive Tells (node : NodeView) (site : Site) : Builtin → List String → Prop
  | filter {side : Side} {value : String} (given : (Criterion.address side).param.given node.params = .ok value) :
      Tells node site (.filter (.address side)) (listItems value)
  | nat {side : Side} {value : String} (given : side.natParam.given node.params = .ok value) :
      Tells node site (.nat side) (listItems value)
  | list {path : String} {text : List Char} (given : Param.given { name := "path" } node.params = .ok path)
      (held : site.files.readText (Path.ofText path) = .ok text) :
      Tells node site .addressList (AddressList.tokens (Text.lines (String.ofList text)))

/-- Where texts of addresses stand in what a node contributes: in the rule of a filter, in the statement of a NAT node, and in
    the file of an address list, whose rules hold the names of sets only. The keyword before them is that of their family. -/
inductive Places : Builtin → Listing → List (List Char) → Prop
  | filter {side : Side} {header chain : String} {isV4 : Bool} {onMatch otherwise : Verdict} {texts : List (List Char)}
      (family : ∀ text ∈ texts, Network.IsOf isV4 text) :
      Places (.filter (.address side))
        { lines := [.text header,
            .rule ⟨chain, .expression
              s!"{familyKeyword isV4} {side.addressSelector} {itemSet (texts.map String.ofList)}", onMatch⟩,
            .rule ⟨chain, .always, otherwise⟩] } texts
  | nat {side : Side} {header chain : String} {isV4 : Bool} {mark : Int} {next : Verdict} {text : List Char}
      (family : Network.IsOf isV4 text) :
      Places (.nat side)
        { lines := [.text header, .rule ⟨chain, .always, .mark mark⟩, .rule ⟨chain, .always, next⟩]
          nat := [(side.hook,
            [s!"meta mark {markText mark} {side.natKeyword} {familyKeyword isV4} to {String.ofList text}"])] } [text]
  | list {header chain file selector : String} {onMatch otherwise : Verdict} {list : AddressList} {texts : List (List Char)}
      (held : ((list.v4 ++ list.v6).map Network.toChars).Perm texts)
      (families : (∀ n ∈ list.v4, n.isV4 = true) ∧ ∀ n ∈ list.v6, n.isV4 = false) :
      Places .addressList
        { lines := .text header :: AddressList.familyLines chain file selector true list.v4 onMatch ++
            AddressList.familyLines chain file selector false list.v6 onMatch ++ [.rule ⟨chain, .always, otherwise⟩]
          files := [("addresses.txt", String.join ((list.v4 ++ list.v6).map fun n => String.ofList n.toChars ++ "\n"))] } texts

theorem shown_ranges {tokens : List String} {found : List Network}
    (related : List.Forall₂ (fun token n => Network.ofText? token = some n) tokens found) :
    List.Forall₂ (fun token text => ∃ n, Network.Shown token text n) tokens (found.map Network.toChars) :=
  List.forall₂_map_right_iff.mpr (related.imp fun _ n named => ⟨n, Network.shown_range named⟩)

theorem filter_addresses {side : Side} {node : NodeView} {outgoing : List Connection} {site : Site} {l : Listing}
    (listed : filterListing (.address side) node outgoing site = .ok l) :
    ∃ tokens texts, (filter (.address side)).Tells node site tokens ∧ (filter (.address side)).Places l texts ∧
      List.Forall₂ (fun token text => ∃ n, Network.Shown token text n) tokens texts := by
  obtain ⟨header, chain, expression, onMatch, otherwise, -, -, said, -, -, rfl⟩ := filterListing_iff.mp listed
  obtain ⟨values, resolved, said⟩ := bind_ok said
  obtain ⟨value, given, held⟩ := resolve_ok resolved List.mem_cons_self
  obtain ⟨found, read, said⟩ := bind_ok (mapError_ok.mp said)
  cases said
  rw [held] at read
  have texts : found.map Network.toText = (found.map Network.toChars).map String.ofList := by
    rw [List.map_map]
    rfl
  rw [texts]
  refine ⟨_, _, .filter given, .filter fun text placed => ?_, shown_ranges (networks_ok read)⟩
  obtain ⟨n, listed, rfl⟩ := List.mem_map.mp placed
  obtain ⟨token, -, named⟩ := (forall₂_partners (networks_ok read)).2 n listed
  exact networks_family read listed ▸ (Network.shown_range named).isOf

theorem nat_addresses {side : Side} {node : NodeView} {outgoing : List Connection} {site : Site} {l : Listing}
    (listed : natListing side node outgoing site = .ok l) :
    ∃ tokens texts, (nat side).Tells node site tokens ∧ (nat side).Places l texts ∧
      List.Forall₂ (fun token text => ∃ n, Network.Shown token text n) tokens texts := by
  obtain ⟨value, token, target, address, header, chain, next, given, items, single, rfl, rfl⟩ := natListing_target listed
  have shown := Network.shown_address single
  refine ⟨_, [target.address.toChars], .nat given, .nat shown.isOf, ?_⟩
  rw [items]
  exact .cons ⟨target, shown⟩ .nil

theorem list_addresses {node : NodeView} {outgoing : List Connection} {site : Site} {l : Listing}
    (listed : addressListListing node outgoing site = .ok l) :
    ∃ tokens texts, addressList.Tells node site tokens ∧ addressList.Places l texts ∧
      List.Forall₂ (fun token text => ∃ n, Network.Shown token text n) tokens texts := by
  obtain ⟨header, chain, values, selector, onMatch, otherwise, list, -, -, resolved, -, loaded, -, -, rfl⟩ :=
    addressListListing_parts listed
  obtain ⟨path, given, held⟩ := resolve_ok resolved List.mem_cons_self
  rw [held] at loaded
  obtain ⟨text, inside, read⟩ := AddressList.load_ok loaded
  obtain ⟨found, related, v4, v6⟩ := AddressList.read_ok read
  have perm : ((list.v4 ++ list.v6).map Network.toChars).Perm (found.map Network.toChars) := by
    rw [v4, v6]
    exact (List.filter_append_perm (·.isV4) found).map _
  refine ⟨_, _, .list given inside, .list perm ⟨fun n member => ?_, fun n member => ?_⟩, shown_ranges related⟩
  · rw [v4] at member
    exact (List.mem_filter.mp member).2
  · rw [v6] at member
    exact (Bool.not_eq_true' n.isV4).mp (List.mem_filter.mp member).2

/-- Every text of an address that a node places is plain unless it has a scope, which then stands there as it was given. -/
theorem placed_address_texts {b : Builtin} (takes : b.takesAddresses = true) {node : NodeView}
    {incoming outgoing : List Connection} {site : Site} {f : Fragment}
    (emitted : b.nodeType.emit node incoming outgoing site = .ok f) :
    ∃ l tokens texts, f = l.fragment ∧ b.Tells node site tokens ∧ b.Places l texts ∧
      List.Forall₂ (fun token text => ∃ n, Network.Shown token text n ∧
        ((∀ c ∈ text, c ∈ Address.plainChars) ↔ n.address.scope? = none)) tokens texts := by
  obtain ⟨l, listed, rfl⟩ := map_ok emitted
  have placed : ∃ tokens texts, b.Tells node site tokens ∧ b.Places l texts ∧
      List.Forall₂ (fun token text => ∃ n, Network.Shown token text n) tokens texts := by
    cases b with
    | filter criterion =>
      cases criterion with
      | address side => exact filter_addresses listed
      | _ => cases takes
    | nat side => exact nat_addresses listed
    | addressList => exact list_addresses listed
    | _ => cases takes
  obtain ⟨tokens, texts, tells, places, shown⟩ := placed
  exact ⟨l, tokens, texts, rfl, tells, places, shown.imp fun _ _ ⟨n, here⟩ => ⟨n, here, here.plain_iff⟩⟩

/-- Behind a scope further words reach the rule. -/
theorem scope_reaches_rule :
    ∃ (site : Site) (f : Fragment) (l : Listing) (text : List Char) (n : Network),
      (filter (.address .source)).nodeType.emit ⟨"n", [("address", .text "fe80::1%eth0; accept")]⟩ [] [] site = .ok f ∧
      f.script = "# n: Source Address Filter (core:source_address_filter)\n" ++
        "\"$NFT\" add rule $TABLE n 'ip6 saddr fe80::1%eth0; accept/128 return'\n" ++
        "\"$NFT\" add rule $TABLE n return" ∧
      f = l.fragment ∧ (filter (.address .source)).Places l [text] ∧ Network.Shown "fe80::1%eth0; accept" text n ∧
      n.address.scope? = some "eth0; accept".toList ∧ ¬ ∀ c ∈ text, c ∈ Address.plainChars := by
  let site : Site := { chains := [("n", "n")], files := .empty (Path.ofText "/") }
  let node : NodeView := ⟨"n", [("address", .text "fe80::1%eth0; accept")]⟩
  have script : ((filter (.address .source)).nodeType.emit node [] [] site).toOption.map (·.script) =
      some ("# n: Source Address Filter (core:source_address_filter)\n" ++
        "\"$NFT\" add rule $TABLE n 'ip6 saddr fe80::1%eth0; accept/128 return'\n" ++
        "\"$NFT\" add rule $TABLE n return") := by decide +kernel
  cases emitted : (filter (.address .source)).nodeType.emit node [] [] site with
  | error e =>
    rw [emitted] at script
    cases script
  | ok f =>
    rw [emitted] at script
    obtain ⟨l, tokens, texts, same, tells, places, shown⟩ := placed_address_texts rfl emitted
    obtain ⟨value, given, rfl⟩ : ∃ value, (Criterion.address .source).param.given node.params = .ok value ∧
        tokens = listItems value := by
      cases tells with
      | filter given => exact ⟨_, given, rfl⟩
    have value : (Criterion.address .source).param.given node.params = .ok "fe80::1%eth0; accept" := by decide
    cases value.symm.trans given
    have items : listItems "fe80::1%eth0; accept" = ["fe80::1%eth0; accept"] := by decide
    rw [items] at shown
    obtain ⟨text, rest, ⟨n, here, plain⟩, last, rfl⟩ := List.forall₂_cons_left_iff.mp shown
    obtain rfl := List.forall₂_nil_left_iff.mp last
    have range : Network.ofText? "fe80::1%eth0; accept" =
        some ⟨.v6 0xfe800000000000000000000000000001 (some "eth0; accept".toList), 128⟩ := by decide +kernel
    cases range.symm.trans here.named
    exact ⟨site, f, l, text, _, emitted, Option.some.inj script, same, places, here, rfl, fun all => nomatch plain.mp all⟩

end Builtin

end Placement

end FilterGraph
