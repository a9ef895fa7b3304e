import FilterGraph.Proofs.Export.NodeLines

namespace FilterGraph

namespace Script

def declared (lines : List ScriptLine) : List String := lines.filterMap ScriptLine.declared?

/-- Rules are added to known chains only, or to such as were declared before. -/
def Follows (known : List String) : List ScriptLine → Prop
  | [] => True
  | line :: rest =>
    (∀ chain, line.extended? = some chain → chain ∈ known) ∧ Follows (known ++ line.declared?.toList) rest

theorem declared_cons (line : ScriptLine) (rest : List ScriptLine) :
    declared (line :: rest) = line.declared?.toList ++ declared rest := by
  rw [declared, List.filterMap_cons]
  cases line.declared? <;> rfl

theorem declared_append (a b : List ScriptLine) : declared (a ++ b) = declared a ++ declared b := List.filterMap_append

theorem follows_append {known : List String} {a b : List ScriptLine} :
    Follows known (a ++ b) ↔ Follows known a ∧ Follows (known ++ declared a) b := by
  induction a generalizing known with
  | nil => simp [Follows, declared]
  | cons line rest ih => rw [List.cons_append, Follows, Follows, ih, declared_cons, List.append_assoc, and_assoc]

theorem follows_of_known {known : List String} {lines : List ScriptLine}
    (all : ∀ line ∈ lines, ∀ chain, line.extended? = some chain → chain ∈ known) : Follows known lines := by
  induction lines generalizing known with
  | nil => trivial
  | cons line rest ih =>
    obtain ⟨first, later⟩ := List.forall_mem_cons.mp all
    exact ⟨first, ih fun other member chain extended => List.mem_append_left _ (later other member chain extended)⟩

theorem Follows.before {known : List String} {before after : List ScriptLine} {line : ScriptLine} {chain : String}
    (follows : Follows known (before ++ line :: after)) (extended : line.extended? = some chain) :
    chain ∈ known ++ declared before :=
  (follows_append.mp follows).2.1 chain extended

def written (sections : List (List ScriptLine)) : String :=
  "\n\n".intercalate (sections.map fun lines => withoutFeeds (ScriptLine.joined lines)) ++ "\n"

section Nat

variable {nat : Entries String (List String)}

theorem declared_natChain {hook : String} {side : Side} (known : Side.ofHook? hook = some side) (statements : List String) :
    declared (natChain hook statements) = ["nat_" ++ hook] := by
  have stated : declared (statements.map (ScriptLine.statement ("nat_" ++ hook))) = [] := by
    rw [declared, List.filterMap_map]
    exact List.filterMap_eq_nil_iff.mpr fun _ _ => rfl
  simp only [natChain, known]
  rw [declared_cons, stated]
  rfl

theorem natChain_follows (known : List String) (hook : String) (statements : List String) :
    Follows known (natChain hook statements) := by
  unfold natChain
  split
  case h_1 => trivial
  case h_2 side _ =>
    refine ⟨nofun, follows_of_known fun line member chain extended => ?_⟩
    obtain ⟨statement, -, rfl⟩ := List.mem_map.mp member
    cases extended
    exact List.mem_append_right _ (List.mem_singleton_self _)

theorem natLines_follow (known : List String) (nat : Entries String (List String)) : Follows known (natLines nat) := by
  refine ⟨nofun, ?_⟩
  generalize known ++ (ScriptLine.text "# nat").declared?.toList = known
  generalize nat.mergeSort (fun a b => a.1 ≤ b.1) = sorted
  induction sorted generalizing known with
  | nil => trivial
  | cons first rest ih =>
    rw [List.flatMap_cons, follows_append]
    exact ⟨natChain_follows known first.1 first.2, ih _⟩

theorem declared_natLines (hooks : ∀ e ∈ nat, ∃ side : Side, e.1 = side.hook) :
    declared (natLines nat) = (nat.mergeSort fun a b => a.1 ≤ b.1).map fun e => "nat_" ++ e.1 := by
  have sorted : ∀ e ∈ nat.mergeSort (fun a b => a.1 ≤ b.1), ∃ side : Side, e.1 = side.hook :=
    fun e member => hooks e (List.mem_mergeSort.mp member)
  rw [natLines, declared_cons]
  show declared _ = _
  revert sorted
  generalize nat.mergeSort (fun a b => a.1 ≤ b.1) = entries
  intro sorted
  induction entries with
  | nil => rfl
  | cons first rest ih =>
    obtain ⟨⟨side, hook⟩, others⟩ := List.forall_mem_cons.mp sorted
    rw [List.flatMap_cons, declared_append, ih others, List.map_cons]
    have known : Side.ofHook? first.1 = some side := hook ▸ side.ofHook?_hook
    rw [declared_natChain known]
    rfl

end Nat

section Preamble

variable (s : Settings) (g : Graph) (chains : Entries String String)

theorem declared_opened : declared (opening s ++ chains.map fun (id, name) =>
    .addChain name (if id == sourceId then some s.baseChain else none)) = chains.map (·.2) := by
  rw [declared_append, declared, declared, List.filterMap_map, ← List.filterMap_eq_map']
  rfl

theorem declared_preamble : declared (preamble s g chains) = chains.map (·.2) := by
  have sent : declared ((g.outgoing sourceId).map fun c =>
      .rule ⟨chainName sourceId, .always, .goto ((chains.get? c.input.node).getD "")⟩) = [] := by
    rw [declared, List.filterMap_map]
    exact List.filterMap_eq_nil_iff.mpr fun _ _ => rfl
  rw [preamble, declared_append, declared_opened, sent, List.append_nil]

theorem preamble_follows (base : chainName sourceId ∈ chains.map (·.2)) : Follows [] (preamble s g chains) := by
  have frame : (opening s).filterMap ScriptLine.extended? = [] := rfl
  rw [preamble, follows_append, declared_opened]
  constructor
  · refine follows_of_known fun line member chain extended => ?_
    rcases List.mem_append.mp member with opened | added
    · rw [List.filterMap_eq_nil_iff.mp frame line opened] at extended
      cases extended
    · obtain ⟨entry, -, rfl⟩ := List.mem_map.mp added
      cases extended
  · refine follows_of_known fun line member chain extended => ?_
    obtain ⟨c, -, rfl⟩ := List.mem_map.mp member
    cases extended
    exact List.mem_append_right _ base

end Preamble

section Closed

theorem chainName_closed (id : String) : Closed (chainName id) := by
  have some := chainName_ne_nil id
  refine ⟨_, List.getLast?_eq_some_getLast some, fun feed => ?_⟩
  have plain := chainName_chars id _ (List.getLast_mem some)
  rw [feed] at plain
  cases plain

theorem addChain_closed {name : String} (closed : Closed name) (base? : Option String) :
    Closed (ScriptLine.addChain name base?).toText := by
  cases base? with
  | none => exact closed.append _
  | some base => exact (quote_closed base).append _

theorem preamble_closed (s : Settings) (g : Graph) {chains : Entries String String} (some : chains ≠ [])
    (named : ∀ e ∈ chains, e.2 = chainName e.1) : Closed (ScriptLine.joined (preamble s g chains)) := by
  rw [preamble, List.append_assoc]
  refine ScriptLine.joined_closed_append _ (List.append_ne_nil_of_left_ne_nil (by simpa using some) _) fun line member => ?_
  rcases List.mem_append.mp member with added | sent
  · obtain ⟨e, listed, rfl⟩ := List.mem_map.mp added
    exact addChain_closed (named e listed ▸ chainName_closed e.1) _
  · obtain ⟨c, -, rfl⟩ := List.mem_map.mp sent
    exact ScriptLine.rule_closed _

theorem natChain_closed (hook : String) (statements : List String) :
    ∀ line ∈ natChain hook statements, Closed line.toText := by
  unfold natChain
  split
  case h_1 => exact nofun
  case h_2 =>
    refine List.forall_mem_cons.mpr ⟨(quote_closed _).append _, fun line member => ?_⟩
    obtain ⟨statement, -, rfl⟩ := List.mem_map.mp member
    exact (quote_closed statement).append _

theorem natLines_closed (nat : Entries String (List String)) : Closed (ScriptLine.joined (natLines nat)) := by
  refine ScriptLine.joined_closed_append [] (List.cons_ne_nil _ _) (List.forall_mem_cons.mpr ⟨⟨'t', rfl, by decide⟩, ?_⟩)
  intro line member
  obtain ⟨e, -, inside⟩ := List.mem_flatMap.mp member
  exact natChain_closed e.1 e.2 line inside

end Closed

end Script

/-- What ids have in common when they differ only in characters that no chain name can have. -/
def underscored (id : String) : String := String.ofList (id.toList.map fun c => if isChainChar c then c else '_')

theorem underscored_eq_of_plain {id name : String} (plain : '_' ∉ name.toList) (same : underscored id = name) : id = name := by
  subst same
  refine String.toList_inj.mp ?_
  rw [underscored, String.toList_ofList] at plain ⊢
  refine (List.map_id _).symm.trans (List.map_congr_left fun c member => ?_)
  split
  · rfl
  · rename_i other
    refine absurd ?_ plain
    exact List.mem_map.mpr ⟨c, member, if_neg other⟩

theorem chainName_permanent {id : String} (permanent : isPermanentId id = true) : chainName id = id := if_pos permanent

theorem chainName_inner {id : String} (inner : isPermanentId id = false) : chainName id = "n_" ++ underscored id := by
  rw [chainName, if_neg (Bool.not_eq_true _ ▸ inner)]
  rfl

theorem permanent_plain {id : String} (permanent : isPermanentId id = true) :
    '_' ∉ id.toList ∧ underscored id = id ∧ id.toList.head? ≠ some 'n' := by
  rcases isPermanentId_iff.mp permanent with rfl | rfl <;> decide +kernel

theorem chainName_ne_permanent {a b : String} (permanent : isPermanentId a = true) (inner : isPermanentId b = false) :
    chainName a ≠ chainName b := by
  rw [chainName_permanent permanent, chainName_inner inner]
  intro same
  refine (permanent_plain permanent).2.2 ?_
  rw [same, String.toList_append]
  rfl

theorem underscored_ne_permanent {a b : String} (permanent : isPermanentId a = true) (inner : isPermanentId b = false) :
    underscored a ≠ underscored b := by
  obtain ⟨plain, kept, -⟩ := permanent_plain permanent
  intro same
  rw [kept] at same
  rw [underscored_eq_of_plain plain same.symm, permanent] at inner
  cases inner

theorem chainName_eq_iff {a b : String} : chainName a = chainName b ↔ underscored a = underscored b := by
  cases first : isPermanentId a <;> cases second : isPermanentId b
  case false.false =>
    rw [chainName_inner first, chainName_inner second, ← String.toList_inj, String.toList_append, String.toList_append,
      List.append_cancel_left_eq, String.toList_inj]
  case false.true =>
    exact iff_of_false (chainName_ne_permanent second first).symm (underscored_ne_permanent second first).symm
  case true.false => exact iff_of_false (chainName_ne_permanent first second) (underscored_ne_permanent first second)
  case true.true =>
    rw [chainName_permanent first, chainName_permanent second, (permanent_plain first).2.1,
      (permanent_plain second).2.1]

theorem chainName_ne_nat (id hook : String) : chainName id ≠ "nat_" ++ hook := by
  intro same
  cases permanent : isPermanentId id with
  | false =>
    rw [chainName_inner permanent, ← String.toList_inj, String.toList_append, String.toList_append] at same
    have left : ("n_".toList ++ (underscored id).toList)[1]? = some '_' := rfl
    have right : ("nat_".toList ++ hook.toList)[1]? = some 'a' := rfl
    rw [same, right] at left
    cases left
  | true =>
    rw [chainName_permanent permanent] at same
    refine (permanent_plain permanent).2.2 ?_
    rw [same, String.toList_append]
    rfl

namespace Emission

theorem mem_statements (es : List Emission) (hook : String) :
    hook ∈ (statements es).map (·.1) ↔ ∃ e ∈ es, hook ∈ e.fragment.nat.map (·.1) := by
  have gathered : hook ∈ (statements es).map (·.1) ↔ hook ∈ [] ∨ hook ∈ (es.flatMap (·.fragment.nat)).map (·.1) :=
    Entries.mem_keys_gather
  rw [gathered, or_iff_right List.not_mem_nil, List.map_flatMap, List.mem_flatMap]

theorem statements_nodup (es : List Emission) : ((statements es).map (·.1)).Nodup :=
  Entries.keys_gather_nodup [] _ List.nodup_nil

end Emission

end FilterGraph
