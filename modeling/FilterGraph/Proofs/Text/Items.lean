import FilterGraph.Builtin
import FilterGraph.Proofs.Outcome
import FilterGraph.Proofs.Text.Pieces
import FilterGraph.Proofs.Text.Trim
import Mathlib.Data.List.ReduceOption

namespace FilterGraph

inductive Between : List Char → Option String → Prop
  | blank {cs : List Char} (blank : ∀ c ∈ cs, Text.isBlank c = true) : Between cs none
  | item {before after : List Char} {item : String} (front : ∀ c ∈ before, Text.isBlank c = true)
      (back : ∀ c ∈ after, Text.isBlank c = true) (whole : Text.trim item = item) (filled : item ≠ "") :
      Between (before ++ item.toList ++ after) (some item)

def ListsItems (text : String) (items : List String) : Prop :=
  ∃ pieces found, pieces ≠ [] ∧ (∀ piece ∈ pieces, ',' ∉ piece) ∧ text.toList = [','].intercalate pieces ∧
    List.Forall₂ Between pieces found ∧ found.reduceOption = items

def pieceItem (piece : List Char) : Option String :=
  if (Text.trimChars piece).isEmpty then none else some (String.ofList (Text.trimChars piece))

theorem between_iff {piece : List Char} {item? : Option String} : Between piece item? ↔ pieceItem piece = item? := by
  constructor
  · intro between
    cases between with
    | blank blank => rw [pieceItem, Text.trimChars_eq_nil.mpr blank, List.isEmpty_nil, if_pos rfl]
    | @item before after item front back whole filled =>
      have trimmed : Text.trimChars item.toList = item.toList := by
        have same := congrArg String.toList whole
        rwa [Text.trim, String.toList_ofList] at same
      have some : item.toList.isEmpty = false := by simpa using filled
      rw [pieceItem, Text.trimChars_padded front back, trimmed, some, if_neg Bool.false_ne_true, String.ofList_toList]
  · rintro rfl
    rw [pieceItem]
    split
    · rename_i nothing
      exact .blank (Text.trimChars_eq_nil.mp (List.isEmpty_iff.mp nothing))
    · rename_i filled
      obtain ⟨before, after, whole, front, back⟩ := Text.trimChars_split piece
      have between := @Between.item before after (String.ofList (Text.trimChars piece)) front back
      rw [Text.trim, String.toList_ofList, Text.trimChars_trimChars, ← whole] at between
      exact between rfl (by simpa using filled)

theorem listItems_eq (text : String) : listItems text = ((Text.pieces ',' text.toList).map pieceItem).reduceOption := by
  rw [listItems, List.filterMap_map, List.reduceOption, List.filterMap_map]
  rfl

theorem listItems_iff {text : String} {items : List String} : listItems text = items ↔ ListsItems text items := by
  rw [listItems_eq]
  constructor
  · rintro rfl
    refine ⟨_, _, Text.pieces_ne_nil ',' text.toList, fun piece listed => (Text.of_mem_pieces listed).1, ?_, ?_, rfl⟩
    · rw [Text.pieces_eq_splitOn, List.intercalate_splitOn]
    · exact List.forall₂_map_right_iff.mpr (List.forall₂_same.mpr fun piece _ => between_iff.mpr rfl)
  · rintro ⟨pieces, found, some, clean, joined, related, rfl⟩
    rw [joined, Text.pieces_intercalate some clean]
    have same : pieces.map pieceItem = found := by
      have found := forall₂_map_eq (f := pieceItem) (h := id) related fun _ _ between => between_iff.mp between
      rwa [List.map_id] at found
    rw [same]

theorem pieceItem_padded {before after : List Char} (front : ∀ c ∈ before, Text.isBlank c = true)
    (back : ∀ c ∈ after, Text.isBlank c = true) (cs : List Char) : pieceItem (before ++ cs ++ after) = pieceItem cs := by
  rw [pieceItem, Text.trimChars_padded front back, pieceItem]

theorem listItems_trim (text : String) : listItems (Text.trim text) = listItems text := by
  obtain ⟨before, after, whole, front, back⟩ := Text.trimChars_split text.toList
  have clean {cs : List Char} (blank : ∀ c ∈ cs, Text.isBlank c = true) : ',' ∉ cs :=
    fun member => absurd (blank ',' member) (by decide)
  have none : ∀ c ∈ ([] : List Char), Text.isBlank c = true := fun _ member => absurd member List.not_mem_nil
  obtain ⟨init, last, core, behind⟩ := Text.pieces_behind (clean back) (Text.trimChars text.toList)
  obtain ⟨first, rest, middle, ahead⟩ := Text.pieces_before (clean front) (Text.trimChars text.toList ++ after)
  have firstItem : pieceItem (before ++ first) = pieceItem first := by
    simpa only [List.append_nil] using pieceItem_padded front none first
  have lastItem : pieceItem (last ++ after) = pieceItem last := pieceItem_padded none back last
  rw [List.append_assoc] at whole
  rw [listItems_eq text, whole, ahead, List.map_cons, firstItem, ← List.map_cons, ← middle, behind, List.map_append,
    List.map_singleton, lastItem, ← List.map_singleton, ← List.map_append, ← core, listItems_eq, Text.trim,
    String.toList_ofList]

end FilterGraph
