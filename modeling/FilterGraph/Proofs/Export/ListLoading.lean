import FilterGraph.Proofs.Export.Addresses
import FilterGraph.Proofs.Text.Trim
import Mathlib.Data.List.DropRight

namespace FilterGraph

namespace Shell

def fileLines (content : String) : List String :=
  let parts := Text.split '\n' content
  if parts.getLast? = some "" then parts.dropLast else parts

def grep (mark : Char) (holding : Bool) (lines : List String) : List String :=
  lines.filter fun line => line.toList.contains mark == holding

def isSpace (c : Char) : Bool := c == ' ' || c == '\t'

def readLine (line : String) : String := String.ofList ((line.toList.dropWhile isSpace).rdropWhile isSpace)

theorem split_terminated {texts : List String} (clean : ∀ t ∈ texts, '\n' ∉ t.toList) :
    Text.split '\n' (String.join (texts.map (· ++ "\n"))) = texts ++ [""] := by
  induction texts with
  | nil => rfl
  | cons first rest ih =>
    obtain ⟨here, later⟩ := List.forall_mem_cons.mp clean
    have whole : (String.join ((first :: rest).map (· ++ "\n"))).toList =
        first.toList ++ '\n' :: (String.join (rest.map (· ++ "\n"))).toList := by
      simp [String.join_cons]
    have others := ih later
    rw [Text.split] at others
    rw [Text.split, whole, Text.pieces_append, Text.pieces_of_not_mem here, List.map_append, others, List.map_singleton,
      String.ofList_toList, List.cons_append, List.nil_append, List.cons_append]

theorem fileLines_terminated {texts : List String} (clean : ∀ t ∈ texts, '\n' ∉ t.toList) :
    fileLines (String.join (texts.map (· ++ "\n"))) = texts := by
  rw [fileLines, split_terminated clean, if_pos List.getLast?_concat, List.dropLast_concat]

theorem readLine_eq_self {c d : Char} {line : String} {init rest : List Char} (front : line.toList = c :: rest)
    (back : line.toList = init ++ [d]) (first : isSpace c = false) (last : isSpace d = false) : readLine line = line := by
  have start : line.toList.dropWhile isSpace = line.toList := by
    rw [front, List.dropWhile_cons_of_neg (Bool.eq_false_iff.mp first)]
  have stop : line.toList.rdropWhile isSpace = line.toList := by
    rw [back, List.rdropWhile_concat_neg _ _ _ (Bool.eq_false_iff.mp last)]
  rw [readLine, start, stop, String.ofList_toList]

end Shell

/-- What a script line does to the sets of a table while files are at hand. A set is empty when it is added, and filled with
    the lines of a file that hold a colon or with the others; the filter refuses elements for a set that is not there. -/
def ScriptLine.load (files : Entries String String) (sets : Entries String (List String)) :
    ScriptLine → Option (Entries String (List String))
  | .addSet name _ => some (if (sets.get? name).isSome then sets else sets.set name [])
  | .fillSet name file colons => do
    let held ← sets.get? name
    let content ← files.get? file
    return sets.set name (held ++ (Shell.grep ':' colons (Shell.fileLines content)).map Shell.readLine)
  | _ => some sets

section Lines

theorem Text.cutLines_clean (line cs : List Char) (clean : ∀ c ∈ line, isLineEnd c = false) :
    ∀ l ∈ cutLines line cs, ∀ c ∈ l, isLineEnd c = false := by
  have reversed {line : List Char} (clean : ∀ c ∈ line, isLineEnd c = false) :
      ∀ c ∈ line.reverse, isLineEnd c = false := fun c member => clean c (List.mem_reverse.mp member)
  fun_induction cutLines line cs with
  | case1 line empty => nofun
  | case2 line filled => exact List.forall_mem_singleton.mpr (reversed clean)
  | case3 line rest ih => exact List.forall_mem_cons.mpr ⟨reversed clean, ih nofun⟩
  | case4 line c rest other stop ih => exact List.forall_mem_cons.mpr ⟨reversed clean, ih nofun⟩
  | case5 line c rest other inner ih => exact ih (List.forall_mem_cons.mpr ⟨Bool.eq_false_iff.mpr inner, clean⟩)

theorem AddressList.feed_not_mem {s token : String} (listed : token ∈ tokens (Text.lines s)) : '\n' ∉ token.toList := by
  obtain ⟨said, -⟩ := List.mem_filter.mp listed
  obtain ⟨line, inside, rfl⟩ := List.mem_map.mp said
  obtain ⟨cs, cut, rfl⟩ := List.mem_map.mp inside
  intro feed
  rw [lineText, String.toList_ofList, String.toList_ofList] at feed
  have feed := (List.takeWhile_prefix _).subset (Text.trimChars_subset _ feed)
  exact absurd (Text.cutLines_clean [] s.toList nofun cs cut '\n' feed) (by decide)

end Lines

section Ranges

theorem Address.numberText_ne_nil (a : Address) : a.numberText ≠ [] := by
  cases a with
  | v4 number => simp [numberText, v4Text, toDigits, List.range_succ, List.intercalate]
  | v6 number scope => exact List.ne_nil_of_mem (v6Groups?_some (v6Groups?_v6Text number)).1

namespace Network
variable {token : String} {n : Network}

theorem feed_not_mem (named : ofText? token = some n) (clean : '\n' ∉ token.toList) : '\n' ∉ n.toChars := by
  -- all but the scope is plain, and the scope stands in the token
  have shown := shown_range named
  obtain ⟨front, back, spelt, plain⟩ := shown.parts
  obtain ⟨before, after⟩ := List.forall_mem_append.mp plain
  have feed : '\n' ∉ Address.plainChars := by decide
  rw [spelt, List.mem_append, List.mem_append, not_or, not_or]
  refine ⟨⟨fun member => feed (before _ member), ?_⟩, fun member => feed (after _ member)⟩
  cases zone : n.address.scope? with
  | none => exact List.not_mem_nil
  | some s => exact fun member => clean ((shown.scope s zone).subset member)

theorem colon_mem : ':' ∈ n.toChars ↔ n.isV4 = false := by
  obtain ⟨address, length⟩ := n
  cases address with
  | v4 number =>
    have colon : ':' ∉ Address.v4Text number := by
      intro member
      rcases Address.mem_v4Text member with other | ⟨d, small, digit⟩
      · exact absurd other (by decide)
      · have none : ∀ d : Fin 10, ':' ≠ d.val.digitChar := by decide
        exact none ⟨d, small⟩ digit
    have digits : ':' ∉ Nat.toDigits 10 length := fun member =>
      absurd (Nat.isDigit_of_mem_toDigits (by decide) (by decide) member) (by decide)
    simp [toChars, Address.toChars, isV4, colon, digits]
  | v6 number scope =>
    have colon := (Address.v6Groups?_some (Address.v6Groups?_v6Text number)).1
    simp [toChars, Address.toChars_v6, isV4, colon]

theorem readLine_toText (n : Network) : Shell.readLine n.toText = n.toText := by
  have marks : Address.plainChars.any Shell.isSpace = false := by decide
  have solid : ∀ c ∈ Address.plainChars, Shell.isSpace c = false :=
    fun c plain => Bool.eq_false_iff.mpr (List.any_eq_false.mp marks c plain)
  obtain ⟨c, rest, number⟩ := List.exists_cons_of_ne_nil n.address.numberText_ne_nil
  obtain ⟨init, d, length⟩ := (List.eq_nil_or_concat' _).resolve_left (Nat.toDigits_ne_nil (n := n.prefixLength) (b := 10))
  have first : c ∈ n.address.numberText := number ▸ List.mem_cons_self
  have last : d ∈ Nat.toDigits 10 n.prefixLength := length ▸ List.mem_concat_self
  have front : n.toText.toList =
      c :: (rest ++ Address.scopeText n.address.scope? ++ '/' :: Nat.toDigits 10 n.prefixLength) := by
    rw [toText, String.toList_ofList, toChars, Address.toChars_eq, number]
    rfl
  have back : n.toText.toList = (n.address.toChars ++ '/' :: init) ++ [d] := by
    rw [toText, String.toList_ofList, toChars, length, List.append_assoc]
    rfl
  refine Shell.readLine_eq_self front back (solid c (Address.mem_numberText first).1) (solid d ?_)
  obtain ⟨k, small, rfl⟩ := Text.mem_toDigits (by decide) last
  exact (Address.digitChar_plain (by omega)).1

end Network

end Ranges

namespace AddressList

def ofFamily (isV4 : Bool) (found : List Network) : List Network := found.filter (·.isV4 == isV4)

def familyTexts (isV4 : Bool) (found : List Network) : List String := (ofFamily isV4 found).map Network.toText

def setName (chain : String) (isV4 : Bool) : String := s!"{chain}_{familyKeyword isV4}"

theorem setName_injective (chain : String) : Function.Injective (setName chain) := by
  intro a b same
  have whole := congrArg String.toList same
  simp only [setName, String.toList_append, toString] at whole
  have keywords := List.append_cancel_left whole
  cases a <;> cases b <;> first | rfl | exact absurd keywords (by decide)

structure Divided (found : List Network) (content : String) : Prop where
  terminated : content = String.join ((familyTexts true found ++ familyTexts false found).map (· ++ "\n"))
  lines : Shell.fileLines content = familyTexts true found ++ familyTexts false found
  selected : ∀ isV4, Shell.grep ':' (!isV4) (Shell.fileLines content) = familyTexts isV4 found
  again : ∀ n ∈ found, Network.ofText? n.toText = some n

theorem grep_familyTexts (isV4 other : Bool) (found : List Network) :
    Shell.grep ':' (!isV4) (familyTexts other found) = if other = isV4 then familyTexts isV4 found else [] := by
  have holds (n : Network) : n.toText.toList.contains ':' = !n.isV4 := by
    rw [Network.toText, String.toList_ofList, Bool.eq_iff_iff, List.contains_iff_mem, Network.colon_mem,
      Bool.not_eq_true']
  have family : ∀ n ∈ ofFamily other found, n.isV4 = other := fun n member => eq_of_beq (List.mem_filter.mp member).2
  split
  · rename_i same
    subst same
    refine List.filter_eq_self.mpr ?_
    intro text listed
    obtain ⟨n, member, rfl⟩ := List.mem_map.mp listed
    rw [holds, family n member, beq_self_eq_true]
  · rename_i differ
    refine List.filter_eq_nil_iff.mpr ?_
    intro text listed
    obtain ⟨n, member, rfl⟩ := List.mem_map.mp listed
    rw [holds, family n member, beq_iff_eq, Bool.not_inj_iff]
    exact differ

theorem divided {s : String} {found : List Network}
    (related : List.Forall₂ (fun token n => Network.ofText? token = some n) (tokens (Text.lines s)) found) :
    Divided found (content ⟨ofFamily true found, ofFamily false found⟩) := by
  have named : ∀ n ∈ found, ∃ token ∈ tokens (Text.lines s), Network.ofText? token = some n :=
    (forall₂_partners related).2
  have terminated : content ⟨ofFamily true found, ofFamily false found⟩ =
      String.join ((familyTexts true found ++ familyTexts false found).map (· ++ "\n")) := by
    rw [content, familyTexts, familyTexts, ← List.map_append, List.map_map]
    rfl
  have clean : ∀ text ∈ familyTexts true found ++ familyTexts false found, '\n' ∉ text.toList := by
    have family (isV4 : Bool) : ∀ text ∈ familyTexts isV4 found, '\n' ∉ text.toList := by
      intro text listed
      obtain ⟨n, member, rfl⟩ := List.mem_map.mp listed
      obtain ⟨token, inside, read⟩ := named n (List.mem_of_mem_filter member)
      rw [Network.toText, String.toList_ofList]
      exact Network.feed_not_mem read (feed_not_mem inside)
    exact List.forall_mem_append.mpr ⟨family true, family false⟩
  have lines : Shell.fileLines (content ⟨ofFamily true found, ofFamily false found⟩) =
      familyTexts true found ++ familyTexts false found := by
    rw [terminated, Shell.fileLines_terminated clean]
  refine ⟨terminated, lines, fun isV4 => ?_, fun n member => ?_⟩
  · have both : Shell.grep ':' (!isV4) (familyTexts true found ++ familyTexts false found) =
        Shell.grep ':' (!isV4) (familyTexts true found) ++ Shell.grep ':' (!isV4) (familyTexts false found) :=
      List.filter_append ..
    rw [lines, both, grep_familyTexts, grep_familyTexts]
    cases isV4 <;> simp
  · obtain ⟨token, -, read⟩ := named n member
    rw [Network.ofText?, Network.toText, String.toList_ofList, Network.ofChars?_toChars (Network.ofChars?_valid read).1]

theorem read_families {path : String} {number : Nat} {lines : List String} {l : AddressList}
    (done : read path number lines = .ok l) :
    ∃ found, List.Forall₂ (fun token n => Network.ofText? token = some n) (tokens lines) found ∧
      l = ⟨ofFamily true found, ofFamily false found⟩ := by
  obtain ⟨found, related, v4, v6⟩ := read_ok done
  refine ⟨found, related, ?_⟩
  cases l
  simp only [AddressList.mk.injEq, ofFamily, beq_true, beq_false]
  exact ⟨v4, v6⟩

section Loading
variable {chain file selector : String} {isV4 : Bool} {entries : List Network} {v : Verdict}

theorem familyLines_eq : familyLines chain file selector isV4 entries v =
    .addSet (setName chain isV4) (if isV4 then "ipv4_addr" else "ipv6_addr") ::
      ((if entries.isEmpty then [] else [.fillSet (setName chain isV4) file (!isV4)]) ++
        [.rule ⟨chain, .expression s!"{familyKeyword isV4} {selector} @{setName chain isV4}", v⟩]) := rfl

theorem fillSet_mem {name source : String} {colons : Bool} :
    .fillSet name source colons ∈ familyLines chain file selector isV4 entries v ↔
      name = setName chain isV4 ∧ source = file ∧ colons = (!isV4) ∧ entries ≠ [] := by
  rw [familyLines_eq]
  cases entries <;> simp

variable {files : Entries String String} {sets : Entries String (List String)}

theorem load_addSet {name type : String} (fresh : sets.get? name = none) :
    ScriptLine.load files sets (.addSet name type) = some (sets.set name []) := by
  rw [ScriptLine.load, fresh]
  rfl

theorem load_fillSet {name : String} (colons : Bool) {held : List String} {whole : String}
    (known : sets.get? name = some held) (kept : files.get? file = some whole) :
    ScriptLine.load files sets (.fillSet name file colons) =
      some (sets.set name (held ++ (Shell.grep ':' colons (Shell.fileLines whole)).map Shell.readLine)) := by
  rw [ScriptLine.load, known, kept]
  rfl

theorem load_family (selector : String) (v : Verdict) {whole : String} (kept : files.get? file = some whole)
    (fresh : sets.get? (setName chain isV4) = none)
    (selected : (Shell.grep ':' (!isV4) (Shell.fileLines whole)).map Shell.readLine = entries.map Network.toText) :
    ∃ loaded, (familyLines chain file selector isV4 entries v).foldlM (ScriptLine.load files) sets = some loaded ∧
      ∀ name, loaded.get? name =
        if name = setName chain isV4 then some (entries.map Network.toText) else sets.get? name := by
  rw [familyLines_eq, List.foldlM_cons, load_addSet fresh, Option.bind_eq_bind, Option.bind_some]
  cases entries with
  | nil => exact ⟨sets.set (setName chain isV4) [], rfl, fun name => Entries.get?_set ..⟩
  | cons n rest =>
    have found : (sets.set (setName chain isV4) []).get? (setName chain isV4) = some [] := by
      rw [Entries.get?_set, if_pos rfl]
    have filled := load_fillSet (!isV4) found kept
    rw [selected, List.nil_append] at filled
    rw [if_neg (by simp), List.singleton_append, List.foldlM_cons, filled]
    refine ⟨_, rfl, fun name => ?_⟩
    rw [Entries.get?_set, Entries.get?_set]
    split <;> rfl

end Loading

/-- The lines of a list fill the set of each family with its ranges, and one that has none is not filled. -/
structure Loads (chain file content : String) (found : List Network) (lines : List ScriptLine) : Prop where
  searches : ∀ name source colons, .fillSet name source colons ∈ lines ↔
    ∃ isV4, name = setName chain isV4 ∧ source = file ∧ colons = (!isV4) ∧ ofFamily isV4 found ≠ []
  fills : ∀ (files : Entries String String) (sets : Entries String (List String)), files.get? file = some content →
    (∀ isV4, sets.get? (setName chain isV4) = none) →
      ∃ loaded, lines.foldlM (ScriptLine.load files) sets = some loaded ∧
        (∀ isV4, loaded.get? (setName chain isV4) = some (familyTexts isV4 found)) ∧
        ∀ name, (∀ isV4, name ≠ setName chain isV4) → loaded.get? name = sets.get? name

theorem loads {header chain file content selector : String} {onMatch otherwise : Verdict} {found : List Network}
    (divided : Divided found content) : Loads chain file content found (.text header ::
      familyLines chain file selector true (ofFamily true found) onMatch ++
      familyLines chain file selector false (ofFamily false found) onMatch ++ [.rule ⟨chain, .always, otherwise⟩]) := by
  constructor
  case searches =>
    intro name source colons
    simp only [List.mem_append, List.mem_cons, List.not_mem_nil, reduceCtorEq, false_or, or_false, fillSet_mem,
      Bool.exists_bool]
    exact or_comm
  case fills =>
    intro files sets kept fresh
    have selected (isV4 : Bool) : (Shell.grep ':' (!isV4) (Shell.fileLines content)).map Shell.readLine =
        (ofFamily isV4 found).map Network.toText := by
      rw [divided.selected, familyTexts, List.map_map]
      exact List.map_congr_left fun n _ => n.readLine_toText
    have differ : setName chain false ≠ setName chain true := fun same => Bool.false_ne_true (setName_injective chain same)
    -- the set of the other family is still new after the first one was filled
    obtain ⟨first, v4, known⟩ := load_family selector onMatch kept (fresh true) (selected true)
    have later : first.get? (setName chain false) = none := by
      rw [known, if_neg differ, fresh]
    obtain ⟨both, v6, all⟩ := load_family selector onMatch kept later (selected false)
    refine ⟨both, ?_, fun isV4 => ?_, fun name other => ?_⟩
    · have headed : (.text header :: familyLines chain file selector true (ofFamily true found) onMatch).foldlM
          (ScriptLine.load files) sets = some first := v4
      rw [List.foldlM_append, List.foldlM_append, headed, Option.bind_eq_bind, Option.bind_some, v6]
      rfl
    · rw [all, known]
      cases isV4 <;> simp [differ.symm, familyTexts]
    · rw [all, known, if_neg (other false), if_neg (other true)]

end AddressList

namespace Builtin

/-- The ranges of an address list are kept in one file, a line each, and loaded from there into a set for each family: no
    range is lost, and none goes to the set of the other family. -/
theorem address_list_loaded {node : NodeView} {incoming outgoing : List Connection} {site : Site} {f : Fragment}
    (emitted : addressList.nodeType.emit node incoming outgoing site = .ok f) :
    ∃ (l : Listing) (path : String) (text : List Char) (found : List Network) (chain content : String),
      f = l.fragment ∧ Param.given { name := "path" } node.params = .ok path ∧
      site.files.readText (Path.ofText path) = .ok text ∧
      List.Forall₂ (fun token n => Network.ofText? token = some n)
        (AddressList.tokens (Text.lines (String.ofList text))) found ∧
      site.chain node.id = .ok chain ∧ f.files = [("addresses.txt", content)] ∧ AddressList.Divided found content ∧
      AddressList.Loads chain (site.dataPath node.id "addresses.txt") content found l.lines := by
  obtain ⟨l, listed, rfl⟩ := map_ok emitted
  obtain ⟨header, chain, values, selector, onMatch, otherwise, list, -, own, resolved, -, loaded, -, -, rfl⟩ :=
    addressListListing_parts listed
  obtain ⟨path, given, held⟩ := resolve_ok resolved List.mem_cons_self
  rw [held] at loaded
  obtain ⟨text, inside, read⟩ := AddressList.load_ok loaded
  obtain ⟨found, related, rfl⟩ := AddressList.read_families read
  have divided := AddressList.divided related
  exact ⟨_, path, text, found, chain, _, rfl, given, inside, related, own, rfl, divided, AddressList.loads divided⟩

def mixedList : Fragment :=
  { script := "# n: IP File Filter (core:file_ip_list)\n" ++
      "\"$NFT\" add set $TABLE n_ip '\x7b type ipv4_addr; flags interval; \x7d'\n" ++
      "grep -vF ':' data/n/addresses.txt | while read -r addr; do " ++
      "\"$NFT\" add element $TABLE n_ip \"\x7b $addr \x7d\"; done\n" ++
      "\"$NFT\" add rule $TABLE n 'ip saddr @n_ip return'\n" ++
      "\"$NFT\" add set $TABLE n_ip6 '\x7b type ipv6_addr; flags interval; \x7d'\n" ++
      "grep -F ':' data/n/addresses.txt | while read -r addr; do " ++
      "\"$NFT\" add element $TABLE n_ip6 \"\x7b $addr \x7d\"; done\n" ++
      "\"$NFT\" add rule $TABLE n 'ip6 saddr @n_ip6 return'\n" ++ "\"$NFT\" add rule $TABLE n return"
    files := [("addresses.txt", "192.0.2.0/24\n192.0.2.0/24\n2001:db8::/32\n")] }

theorem mixed_list_loaded :
    ∃ (site : Site) (l : Listing) (content : String) (loaded : Entries String (List String)),
      addressList.nodeType.emit ⟨"n", [("path", .text "/list")]⟩ [] [] site = .ok mixedList ∧ mixedList = l.fragment ∧
      mixedList.files = [("addresses.txt", content)] ∧
      l.lines.foldlM (ScriptLine.load [("data/n/addresses.txt", content)]) [] = some loaded ∧
      loaded.get? "n_ip" = some ["192.0.2.0/24", "192.0.2.0/24"] ∧ loaded.get? "n_ip6" = some ["2001:db8::/32"] := by
  let text := "192.0.2.7/24\n2001:db8::1/32 # both\n\n192.0.2.0/24"
  let site : Site := { chains := [("n", "n")]
                       files := ⟨Path.ofText "/", none, [(["list"], .file text.toUTF8.toList false)]⟩ }
  let node : NodeView := ⟨"n", [("path", .text "/list")]⟩
  have emitted : addressList.nodeType.emit node [] [] site = .ok mixedList := ok_of_toOption (by decide +kernel)
  obtain ⟨l, path, held, found, chain, content, same, given, inside, related, own, files, divided, loads⟩ :=
    address_list_loaded emitted
  cases (rfl : site.chain node.id = .ok "n").symm.trans own
  cases files
  obtain ⟨loaded, run, sets, -⟩ := loads.fills [("data/n/addresses.txt", _)] [] rfl fun _ => rfl
  have v4 := (sets true).trans (congrArg some (divided.selected true).symm)
  have v6 := (sets false).trans (congrArg some (divided.selected false).symm)
  exact ⟨site, l, _, loaded, emitted, same, rfl, run, v4.trans (by decide), v6.trans (by decide)⟩

end Builtin
end FilterGraph
