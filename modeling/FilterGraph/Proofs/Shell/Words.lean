import FilterGraph.Proofs.Export.ChainLines

namespace FilterGraph

namespace Shell

/-- A part of a word: a character that stands for itself, or the value of a variable. A value that is not quoted is
    split into fields once it is known. -/
inductive Part where
  | literal (c : Char)
  | value (name : String) (quoted : Bool)
  deriving DecidableEq, Repr

abbrev Word := List Part

def Word.ofText (s : String) : Word := s.toList.map .literal

inductive Mode where
  | bare
  | single
  | double
  | escaped (quoted : Bool)
  | dollar (quoted : Bool)
  | name (quoted : Bool) (read : List Char)
  deriving DecidableEq, Repr

structure Reader where
  words : List Word := []
  word? : Option Word := none
  mode : Mode := .bare
  deriving DecidableEq, Repr

def isNameStart (c : Char) : Bool := c.isAlpha || c == '_'

def isNameChar (c : Char) : Bool := c.isAlphanum || c == '_'

/-- Outside of quotes these are operators, ends of lines, substitutions, patterns, home folders or comments. -/
def isActive (c : Char) : Bool := "|&;<>()\n`*?[~#".toList.contains c

namespace Reader

def put (r : Reader) (parts : List Part) : Reader := { r with word? := some (r.word?.getD [] ++ parts) }

def within (r : Reader) (mode : Mode) : Reader := { r with mode }

def close (r : Reader) : Reader := { r with words := r.words ++ r.word?.toList, word? := none }

def stepBare (r : Reader) (c : Char) : Option Reader :=
  if c == ' ' || c == '\t' then some r.close
  else if c == '\'' then some ((r.put []).within .single)
  else if c == '"' then some ((r.put []).within .double)
  else if c == '\\' then some (r.within (.escaped false))
  else if c == '$' then some (r.within (.dollar false))
  else if isActive c then none
  else some (r.put [.literal c])

def stepDouble (r : Reader) (c : Char) : Option Reader :=
  if c == '"' then some (r.within .bare)
  else if c == '\\' then some (r.within (.escaped true))
  else if c == '$' then some (r.within (.dollar true))
  else if c == '`' then none
  else some (r.put [.literal c])

def stepEscaped (r : Reader) (quoted : Bool) (c : Char) : Reader :=
  let r := r.within (if quoted then .double else .bare)
  if c == '\n' then r
  else if quoted && !"$`\"\\".toList.contains c then r.put [.literal '\\', .literal c]
  else r.put [.literal c]

def closeName (r : Reader) (quoted : Bool) (read : List Char) : Reader :=
  (r.put [.value (String.ofList read) quoted]).within (if quoted then .double else .bare)

def step (r : Reader) (c : Char) : Option Reader :=
  match r.mode with
  | .bare => r.stepBare c
  | .single => if c == '\'' then some (r.within .bare) else some (r.put [.literal c])
  | .double => r.stepDouble c
  | .escaped quoted => some (r.stepEscaped quoted c)
  | .dollar quoted => if isNameStart c then some (r.within (.name quoted [c])) else none
  | .name quoted read =>
    if isNameChar c then some (r.within (.name quoted (read ++ [c])))
    else if quoted then (r.closeName quoted read).stepDouble c
    else (r.closeName quoted read).stepBare c

def finish (r : Reader) : Option (List Word) :=
  match r.mode with
  | .bare => some r.close.words
  | .name false read => some (r.closeName false read).close.words
  | _ => none

def run (r : Reader) (cs : List Char) : Option Reader := cs.foldlM step r

theorem run_append (r : Reader) (xs ys : List Char) : r.run (xs ++ ys) = (r.run xs).bind fun s => s.run ys :=
  List.foldlM_append

theorem run_cons (r : Reader) (c : Char) (cs : List Char) : r.run (c :: cs) = (r.step c).bind fun s => s.run cs :=
  List.foldlM_cons

end Reader

def words? (s : String) : Option (List Word) := (Reader.run {} s.toList).bind Reader.finish

theorem stepBare_plain {c : Char} (plain : isPlain c = true) (r : Reader) : r.stepBare c = some (r.put [.literal c]) := by
  have other {d : Char} (marked : isPlain d = false) : (c == d) = false := by
    apply beq_false_of_ne
    rintro rfl
    exact Bool.noConfusion (plain.symm.trans marked)
  have inactive : isActive c = false := by
    apply Bool.eq_false_iff.mpr
    intro active
    have marked : ∀ d ∈ "|&;<>()\n`*?[~#".toList, isPlain d = false := List.forall_iff_forall_mem.mp (by decide)
    exact Bool.noConfusion (plain.symm.trans (marked c (List.contains_iff_mem.mp active)))
  have blank : (c == ' ' || c == '\t') = false := Bool.or_eq_false_iff.mpr ⟨other (by decide), other (by decide)⟩
  have single : (c == '\'') = false := other (by decide)
  have double : (c == '"') = false := other (by decide)
  have backslash : (c == '\\') = false := other (by decide)
  have dollar : (c == '$') = false := other (by decide)
  rw [Reader.stepBare, blank, single, double, backslash, dollar, inactive]
  rfl

namespace Reader

variable (ws : List Word) (w : Word)

theorem run_plain {cs : List Char} (plain : ∀ c ∈ cs, isPlain c = true) :
    run ⟨ws, some w, .bare⟩ cs = some ⟨ws, some (w ++ cs.map .literal), .bare⟩ := by
  induction cs generalizing w with
  | nil =>
    rw [List.map_nil, List.append_nil]
    rfl
  | cons c rest ih =>
    obtain ⟨first, others⟩ := List.forall_mem_cons.mp plain
    have stepped : step ⟨ws, some w, .bare⟩ c = some ⟨ws, some (w ++ [.literal c]), .bare⟩ := stepBare_plain first _
    rw [run_cons, stepped, Option.bind_some, ih _ others, List.map_cons,
      List.append_cons w (.literal c) (rest.map .literal)]

/-- In single quotes all characters stand for themselves, and a quote that is written another way does too. -/
theorem run_quotedChars (cs : List Char) :
    run ⟨ws, some w, .single⟩ (quotedChars cs) = some ⟨ws, some (w ++ cs.map .literal), .single⟩ := by
  induction cs generalizing w with
  | nil =>
    rw [List.map_nil, List.append_nil]
    rfl
  | cons c rest ih =>
    rw [List.map_cons, List.append_cons, ← ih]
    by_cases quote : c = '\''
    · subst quote
      have written : run ⟨ws, some w, .single⟩ ['\'', '"', '\'', '"', '\''] =
          some ⟨ws, some (w ++ [] ++ [.literal '\''] ++ []), .single⟩ := rfl
      rw [quotedChars, run_append, written, Option.bind_some, List.append_nil, List.append_nil]
    · have apart : (c == '\'') = false := beq_false_of_ne quote
      have stepped : step ⟨ws, some w, .single⟩ c = some ⟨ws, some (w ++ [.literal c]), .single⟩ := by
        show (if c == '\'' then _ else _) = _
        rw [apart]
        rfl
      rw [quotedChars.eq_3 c rest quote, run_cons, stepped, Option.bind_some]

theorem run_quote (s : String) : run ⟨ws, none, .bare⟩ (quote s).toList = some ⟨ws, some (Word.ofText s), .bare⟩ := by
  rw [quote, String.toList_ofList, quoteChars]
  split
  case isTrue bare =>
    obtain ⟨filled, plain⟩ := Bool.and_eq_true_iff.mp bare
    cases read : s.toList with
    | nil =>
      rw [read] at filled
      cases filled
    | cons c rest =>
      rw [read] at plain
      obtain ⟨first, others⟩ := List.forall_mem_cons.mp (List.all_eq_true.mp plain)
      have begun : step ⟨ws, none, .bare⟩ c = some ⟨ws, some [.literal c], .bare⟩ := stepBare_plain first _
      rw [run_cons, begun, Option.bind_some, run_plain ws _ others, Word.ofText, read, List.map_cons, List.singleton_append]
  case isFalse quoted =>
    have opened : step ⟨ws, none, .bare⟩ '\'' = some ⟨ws, some [], .single⟩ := rfl
    rw [List.cons_append, run_cons, opened, Option.bind_some, run_append, run_quotedChars]
    rfl

theorem run_word {s : String} (filled : s ≠ "") (plain : ∀ c ∈ s.toList, isPlain c = true) :
    run ⟨ws, none, .bare⟩ s.toList = some ⟨ws, some (Word.ofText s), .bare⟩ := by
  have bare : quoteChars s.toList = s.toList := by
    have some : s.toList ≠ [] := fun none => filled (String.toList_eq_nil_iff.mp none)
    rw [quoteChars, List.all_eq_true.mpr plain, List.isEmpty_eq_false_iff.mpr some]
    rfl
  rw [← run_quote ws s, quote, String.toList_ofList, bare]

end Reader

end Shell

theorem chainName_plain (id : String) : chainName id ≠ "" ∧ ∀ c ∈ (chainName id).toList, Shell.isPlain c = true := by
  by_cases permanent : isPermanentId id = true
  · rw [chainName_permanent permanent]
    rcases isPermanentId_iff.mp permanent with rfl | rfl
    all_goals exact ⟨by decide, List.all_eq_true.mp (by decide)⟩
  · have spelt : (chainName id).toList = 'n' :: '_' :: id.toList.map fun c => if isChainChar c then c else '_' := by
      have mapped : (underscored id).toList = id.toList.map fun c => if isChainChar c then c else '_' := String.toList_ofList
      rw [chainName_inner (Bool.eq_false_iff.mpr permanent), String.toList_append, mapped]
      rfl
    constructor
    · intro none
      rw [none] at spelt
      cases spelt
    · rw [spelt, List.forall_mem_cons, List.forall_mem_cons]
      refine ⟨by decide, by decide, ?_⟩
      refine List.forall_mem_map.mpr fun c _ => ?_
      split
      case isTrue kept =>
        rcases Bool.or_eq_true_iff.mp kept with letter | underscore
        · rw [Shell.isPlain, letter, Bool.true_or]
        · rw [eq_of_beq underscore]
          decide
      case isFalse => decide

namespace Rule

open Shell

/-- A rule is six words to the shell. The last one is the statement and nothing else, whatever is in it: no value of a
    variable, no word of its own, no end of the line. -/
theorem line_words (id statement : String) : words? (line (chainName id) statement) =
    some [[.value "NFT" true], Word.ofText "add", Word.ofText "rule", [.value "TABLE" false],
      Word.ofText (chainName id), Word.ofText statement] := by
  obtain ⟨filled, plain⟩ := chainName_plain id
  have spelt : (line (chainName id) statement).toList =
      "\"$NFT\" add rule $TABLE ".toList ++ ((chainName id).toList ++ ' ' :: (quote statement).toList) := by
    have joined : line (chainName id) statement = "\"$NFT\" add rule $TABLE " ++ chainName id ++ " " ++ quote statement := rfl
    simp [joined]
  have front : Reader.run {} "\"$NFT\" add rule $TABLE ".toList =
      some ⟨[[.value "NFT" true], Word.ofText "add", Word.ofText "rule", [.value "TABLE" false]], none, .bare⟩ := by
    decide +kernel
  have blank (ws : List Shell.Word) (w : Shell.Word) : Reader.step ⟨ws, some w, .bare⟩ ' ' = some ⟨ws ++ [w], none, .bare⟩ := rfl
  rw [words?, spelt, Reader.run_append, front, Option.bind_some, Reader.run_append, Reader.run_word _ filled plain,
    Option.bind_some, Reader.run_cons, blank, Option.bind_some, Reader.run_quote]
  rfl

example : words? (line "n_a" "it's $HOME\n`ls`") =
    some [[.value "NFT" true], Word.ofText "add", Word.ofText "rule", [.value "TABLE" false], Word.ofText "n_a",
      Word.ofText "it's $HOME\n`ls`"] := by
  decide +kernel

end Rule
end FilterGraph
