import FilterGraph.NodeType

namespace FilterGraph

def Closed (s : String) : Prop := ∃ c, s.toList.getLast? = some c ∧ c ≠ '\n'

theorem Closed.append {s : String} (closed : Closed s) (start : String) : Closed (start ++ s) := by
  obtain ⟨c, last, other⟩ := closed
  refine ⟨c, ?_, other⟩
  rw [String.toList_append, List.getLast?_append, last, Option.some_or]

theorem Closed.not_isEmpty {s : String} (closed : Closed s) : s.isEmpty = false := by
  obtain ⟨c, last, -⟩ := closed
  rw [← Bool.not_eq_true, String.isEmpty_iff]
  rintro rfl
  cases last

theorem closed_intercalate {separator s : String} {texts : List String} (last : texts.getLast? = some s)
    (closed : Closed s) : Closed (separator.intercalate texts) := by
  induction texts with
  | nil => cases last
  | cons first rest ih =>
    cases rest with
    | nil =>
      cases last
      rwa [String.intercalate_singleton]
    | cons second rest =>
      rw [String.intercalate_cons_cons]
      exact (ih (List.getLast?_cons_cons.symm.trans last)).append _

theorem quote_closed (s : String) : Closed (Shell.quote s) := by
  unfold Closed
  rw [Shell.quote, String.toList_ofList, Shell.quoteChars]
  split
  · rename_i plain
    simp only [Bool.and_eq_true, Bool.not_eq_true', List.isEmpty_eq_false_iff, List.all_eq_true] at plain
    obtain ⟨some, all⟩ := plain
    refine ⟨_, List.getLast?_eq_some_getLast some, ?_⟩
    intro feed
    have isPlain := all _ (List.getLast_mem some)
    rw [feed] at isPlain
    exact absurd isPlain (by decide)
  · exact ⟨'\'', List.getLast?_concat, by decide⟩

namespace ScriptLine

def rule? : ScriptLine → Option Rule
  | .rule r => some r
  | _ => none

theorem filterMap_rule? (rules : List Rule) : (rules.map rule).filterMap rule? = rules := by
  rw [List.filterMap_map]
  exact List.filterMap_some

theorem rule_closed (r : Rule) : Closed (rule r).toText := (quote_closed r.statement).append _

theorem joined_closed {lines : List ScriptLine} {line : ScriptLine} (last : lines.getLast? = some line)
    (closed : Closed line.toText) : Closed (joined lines) :=
  closed_intercalate (by rw [List.getLast?_map, last, Option.map_some]) closed

theorem joined_closed_append (first : List ScriptLine) {lines : List ScriptLine} (some : lines ≠ [])
    (closed : ∀ line ∈ lines, Closed line.toText) : Closed (joined (first ++ lines)) := by
  refine joined_closed ?_ (closed _ (List.getLast_mem some))
  rw [List.getLast?_append, List.getLast?_eq_some_getLast some, Option.some_or]

end ScriptLine

def withoutFeeds (s : String) : String := String.ofList ((s.toList.reverse.dropWhile (· == '\n')).reverse)

theorem Closed.withoutFeeds_eq {s : String} (closed : Closed s) : withoutFeeds s = s := by
  obtain ⟨c, last, other⟩ := closed
  obtain ⟨rest, reversed⟩ := List.head?_eq_some_iff.mp (List.head?_reverse.trans last)
  have solid : (c == '\n') = false := beq_false_of_ne other
  rw [withoutFeeds, reversed, List.dropWhile_cons, solid, if_neg Bool.false_ne_true, ← reversed, List.reverse_reverse,
    String.ofList_toList]

end FilterGraph
