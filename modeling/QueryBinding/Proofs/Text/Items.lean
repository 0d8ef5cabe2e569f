import Mathlib.Data.List.Basic
import QueryBinding.Text.Pieces
import QueryBinding.Proofs.Text.Separated
import QueryBinding.Proofs.Text.Trimmed
/-!
The items of a text. Every item can stand in a list as it is, and of texts that can, one text is
written from which they are read again. Several texts hold the same items as the one text that they
are joined to; both rest on separators without borders.
-/
namespace QueryBinding.Text

variable {sep : Separator}

/-- The separator as a text. -/
def Separator.text (sep : Separator) : String := String.ofList sep.chars

/-- A text that can stand among items as it is: it is not empty, neither begins nor ends with a
blank, and does not hold the separator. -/
structure IsItem (sep : Separator) (s : String) : Prop where
  filled : s ≠ ""
  trimmed : Trimmed s.toList
  whole : ¬sep.chars <:+: s.toList

instance (sep : Separator) (s : String) : Decidable (IsItem sep s) :=
  decidable_of_iff (s ≠ "" ∧ Trimmed s.toList ∧ ¬sep.chars <:+: s.toList)
    ⟨fun h => ⟨h.1, h.2.1, h.2.2⟩, fun h => ⟨h.filled, h.trimmed, h.whole⟩⟩

theorem toList_intercalate (sep : Separator) (texts : List String) :
    (sep.text.intercalate texts).toList = join sep (texts.map String.toList) := by
  simp [Separator.text, join]

theorem items_empty (sep : Separator) : items sep "" = [] := by
  simp [items, split_nil, trim, trimWhere]

theorem mem_items {s item : String} :
    item ∈ items sep s ↔ item ≠ "" ∧ ∃ piece ∈ split sep s.toList, trim piece = item.toList := by
  simp only [items, List.mem_map, List.mem_filter, Bool.not_eq_true', List.isEmpty_eq_false_iff]
  constructor
  · rintro ⟨cs, ⟨⟨piece, mem, rfl⟩, filled⟩, rfl⟩
    refine ⟨fun empty => filled ?_, piece, mem, String.toList_ofList.symm⟩
    simpa using congrArg String.toList empty
  · rintro ⟨filled, piece, mem, same⟩
    refine ⟨item.toList, ⟨⟨piece, mem, same⟩, fun empty => filled ?_⟩, String.ofList_toList⟩
    exact String.toList_eq_nil_iff.1 empty

theorem isItem_of_mem_items {s item : String} (mem : item ∈ items sep s) : IsItem sep item := by
  obtain ⟨filled, piece, isPiece, same⟩ := mem_items.1 mem
  refine ⟨filled, same ▸ trimmed_trim piece, fun inside => ?_⟩
  rw [← same] at inside
  exact not_infix_of_mem_split isPiece (inside.trans (isInfix_trim piece))

theorem IsItem.items_eq {s : String} (h : IsItem sep s) : items sep s = [s] := by
  have filled : s.toList ≠ [] := fun empty => h.filled (String.toList_eq_nil_iff.1 empty)
  simp [items, split_of_not_infix h.whole, trim_of_trimmed h.trimmed, filled]

theorem split_intercalate (borderless : sep.Borderless) {texts : List String}
    (filled : texts ≠ []) :
    split sep (sep.text.intercalate texts).toList = texts.flatMap fun s => split sep s.toList := by
  have nonempty : texts.map String.toList ≠ [] := fun none => filled (List.map_eq_nil_iff.1 none)
  rw [toList_intercalate, split_join borderless nonempty, List.flatMap_map]

/-- One text holds the items of all texts that it is joined of. -/
theorem items_intercalate (borderless : sep.Borderless) (texts : List String) :
    items sep (sep.text.intercalate texts) = itemsOfAll sep texts := by
  by_cases empty : texts = []
  · subst empty
    exact items_empty sep
  · unfold itemsOfAll items
    rw [split_intercalate borderless empty, List.map_flatMap, List.filter_flatMap,
      List.map_flatMap]

-- A separator with a border can lie across the end of a text.
example : items ⟨'a', ['a']⟩ ("aa".intercalate ["xa", "y"]) = ["x", "ay"] ∧
    itemsOfAll ⟨'a', ['a']⟩ ["xa", "y"] = ["xa", "y"] := by
  decide +kernel

theorem items_intercalate_of_isItem (borderless : sep.Borderless) {texts : List String}
    (each : ∀ s ∈ texts, IsItem sep s) : items sep (sep.text.intercalate texts) = texts :=
  calc items sep (sep.text.intercalate texts)
    _ = texts.flatMap (items sep) := items_intercalate borderless texts
    _ = texts.flatMap fun s => [s] := List.flatMap_congr fun s mem => (each s mem).items_eq
    _ = texts := List.flatMap_singleton' texts

end QueryBinding.Text
