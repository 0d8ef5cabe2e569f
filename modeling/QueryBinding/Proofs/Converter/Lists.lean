import QueryBinding.Proofs.Converter.Variables
import QueryBinding.Proofs.Duplicates
import QueryBinding.Proofs.Text.Items
/-!
Converters of lists. A list may come as several texts or as one text, in which the same texts stand
with separators between them: the converters make the same of both. What they find are items, and
items can be written as one text, of which the converters make the items again. A set is the list
without repetitions.
-/
namespace QueryBinding.Converter

open Text

theorem borderless_comma : comma.Borderless := borderless_singleton ','

theorem text_comma : comma.text = "," := rfl

/-! ### Several texts as one -/

/-- Several texts are converted as the one text that they are with the separator between them. -/
def ReadsJoined (c : Converter) (sep : Separator) : Prop :=
  ∀ texts, c.convertAll texts = c.convert (sep.text.intercalate texts)

theorem separatedList_readsJoined (kind : String) {sep : Separator} (borderless : sep.Borderless) :
    (separatedList kind sep).ReadsJoined sep := by
  intro texts
  simp only [separatedList, items_intercalate borderless]

theorem separatedSet_readsJoined (kind : String) {sep : Separator} (borderless : sep.Borderless) :
    (separatedSet kind sep).ReadsJoined sep := by
  intro texts
  simp only [separatedSet, items_intercalate borderless, itemsOfAll, eraseDups_flatMap_eraseDups]

theorem readPieces_intercalate {texts : List String} (filled : texts ≠ []) :
    readPieces (",".intercalate texts) = (texts.mapM readPieces).map List.flatten := by
  have cut := split_intercalate borderless_comma filled
  unfold readPieces
  rw [← text_comma, cut, mapM_flatMap]

/-- Texts of filters are read alike one by one and joined; the first one that is refused is the
reason why the joined text is refused. -/
theorem readVariables_intercalate {texts : List String} (filled : texts ≠ []) :
    (∃ parts, texts.mapM readVariables = .ok parts ∧
      readVariables (",".intercalate texts) = .ok parts.flatten) ∨
    ∃ before s after reason, texts = before ++ s :: after ∧
      (∀ t ∈ before, ∃ filters, readVariables t = .ok filters) ∧
      texts.mapM readVariables = .error (.conversion (.text s) reason) ∧
      readVariables (",".intercalate texts) =
        .error (.conversion (.text (",".intercalate texts)) reason) := by
  have reads (s : String) (filters : List VariableFilter) (known : readPieces s = .ok filters) :
      readVariables s = .ok filters := by
    rw [readVariables_eq, mapError_eq_ok, known]
  have refuses (s : String) (reason : Reason) (known : readPieces s = .error reason) :
      readVariables s = .error (.conversion (.text s) reason) := by
    rw [readVariables_eq, mapError_eq_error]
    exact ⟨reason, known, rfl⟩
  have joined := readPieces_intercalate filled
  cases pieces : texts.mapM readPieces with
  | ok parts =>
    refine .inl ⟨parts, ?_, reads _ _ (by rw [joined, pieces]; rfl)⟩
    exact mapM_eq_ok_iff_forall₂.2 ((mapM_eq_ok_iff_forall₂.1 pieces).imp reads)
  | error reason =>
    obtain ⟨before, s, after, cut, good, bad⟩ := mapM_eq_error.1 pieces
    have earlier : ∀ t ∈ before, ∃ filters, readVariables t = .ok filters := by
      intro t mem
      obtain ⟨filters, known⟩ := good t mem
      exact ⟨filters, reads t filters known⟩
    refine .inr ⟨before, s, after, reason, cut, earlier, ?_, ?_⟩
    · exact mapM_eq_error.2 ⟨before, s, after, cut, earlier, refuses s reason bad⟩
    · exact refuses _ reason (by rw [joined, pieces]; rfl)

/-- Repeating the parameter of a list says the same as one joined value. The separator of a list or
set is a comma or any other without a border; texts of filters on variables are accepted together or
refused for the same reason. -/
theorem repeated_as_joined :
    (stringList.ReadsJoined comma ∧ stringSet.ReadsJoined comma) ∧
    (∀ kind (sep : Separator), sep.Borderless →
      (separatedList kind sep).ReadsJoined sep ∧ (separatedSet kind sep).ReadsJoined sep) ∧
    ∀ texts, texts ≠ [] →
      (∃ d, variableList.convertAll texts = .ok d ∧
        variableList.convert (",".intercalate texts) = .ok d) ∨
      ∃ before s after reason, texts = before ++ s :: after ∧
        (∀ t ∈ before, ∃ d, variableList.convert t = .ok d) ∧
        variableList.convertAll texts = .error (.conversion (.text s) reason) ∧
        variableList.convert (",".intercalate texts) =
          .error (.conversion (.text (",".intercalate texts)) reason) := by
  refine ⟨⟨separatedList_readsJoined _ borderless_comma,
    separatedSet_readsJoined _ borderless_comma⟩, ?_, ?_⟩
  · intro kind sep borderless
    exact ⟨separatedList_readsJoined kind borderless, separatedSet_readsJoined kind borderless⟩
  · intro texts filled
    rcases readVariables_intercalate filled with
      ⟨parts, all, one⟩ | ⟨before, s, after, reason, cut, good, all, one⟩
    · refine .inl ⟨ofFilters parts.flatten, ?_, map_eq_ok.2 ⟨_, one, rfl⟩⟩
      exact map_eq_ok.2 ⟨parts, all, rfl⟩
    · refine .inr ⟨before, s, after, reason, cut, fun t mem => ?_, map_eq_error.2 all,
        map_eq_error.2 one⟩
      obtain ⟨filters, known⟩ := good t mem
      exact ⟨ofFilters filters, map_eq_ok.2 ⟨filters, known, rfl⟩⟩

/-- The separator `->`, which a hyphen at the end of a text and an angle at the front of the next
one do not make. -/
theorem repeated_as_joined_arrow :
    Separator.Borderless ⟨'-', ['>']⟩ ∧
    (separatedSet "arrow-set" ⟨'-', ['>']⟩).convertAll ["b->a-", ">b->b"] =
      (separatedSet "arrow-set" ⟨'-', ['>']⟩).convert "b->a-->>b->b" ∧
    ["a_eq_1", "b_up_2,c"] ≠ [] ∧
    variableList.convertAll ["a_eq_1", "b_up_2,c"] =
      .error (.conversion (.text "b_up_2,c") (.variableOperator "up")) ∧
    variableList.convert "a_eq_1,b_up_2,c" =
      .error (.conversion (.text "a_eq_1,b_up_2,c") (.variableOperator "up")) := by
  have arrow : Separator.Borderless ⟨'-', ['>']⟩ := by decide
  have all : variableList.convertAll ["a_eq_1", "b_up_2,c"] =
      .error (.conversion (.text "b_up_2,c") (.variableOperator "up")) := by cbv
  have filled : ["a_eq_1", "b_up_2,c"] ≠ [] := by decide
  have text : (Separator.text ⟨'-', ['>']⟩).intercalate ["b->a-", ">b->b"] = "b->a-->>b->b" := by
    decide +kernel
  refine ⟨arrow, ?_, filled, all, ?_⟩
  · rw [← text]
    exact (repeated_as_joined.2.1 "arrow-set" _ arrow).2 ["b->a-", ">b->b"]
  · rcases repeated_as_joined.2.2 _ filled with ⟨d, known, _⟩ | ⟨_, s, _, reason, _, _, known, one⟩
    · cases all.symm.trans known
    · cases all.symm.trans known
      exact one

/-! ### Items as one text -/

/-- What a converter of items makes of texts: items that can stand in one text, and of the text in
which they do, the same items. -/
structure ReadsItems (c : Converter) (sep : Separator) : Prop where
  found : ∀ s, ∃ items, c.convert s = .ok (ofTexts items) ∧ ∀ item ∈ items, IsItem sep item
  written : ∀ items, (∀ item ∈ items, IsItem sep item) →
    c.convert (sep.text.intercalate items) = .ok (ofTexts items)
  settled : ∀ s, ∃ items, c.convert s = .ok (ofTexts items) ∧
    c.convert (sep.text.intercalate items) = .ok (ofTexts items)

theorem separatedList_intercalate (kind : String) {sep : Separator} (borderless : sep.Borderless)
    {items : List String} (each : ∀ item ∈ items, IsItem sep item) :
    (separatedList kind sep).convert (sep.text.intercalate items) = .ok (ofTexts items) := by
  simp only [separatedList, items_intercalate_of_isItem borderless each]

theorem separatedList_readsItems (kind : String) {sep : Separator} (borderless : sep.Borderless) :
    (separatedList kind sep).ReadsItems sep where
  found s := ⟨items sep s, rfl, fun _ mem => isItem_of_mem_items mem⟩
  written _ each := separatedList_intercalate kind borderless each
  settled s := by
    refine ⟨items sep s, rfl, separatedList_intercalate kind borderless ?_⟩
    intro item mem
    exact isItem_of_mem_items mem

/-- Every list that is found in a text consists of items, and every list of items is found again in
the text that it is written as. This holds of a comma and of every other separator without a
border. -/
theorem items_written_and_found :
    stringList.ReadsItems comma ∧
      ∀ kind (sep : Separator), sep.Borderless → (separatedList kind sep).ReadsItems sep :=
  ⟨separatedList_readsItems _ borderless_comma,
    fun kind _ borderless => separatedList_readsItems kind borderless⟩

theorem items_written_and_found_arrow :
    Separator.Borderless ⟨'-', ['>']⟩ ∧
      (∀ item ∈ ["a - >b", "-", ">"], IsItem ⟨'-', ['>']⟩ item) ∧
      (separatedList "arrow-list" ⟨'-', ['>']⟩).convert "a - >b->-->>" =
        .ok (ofTexts ["a - >b", "-", ">"]) := by
  have arrow : Separator.Borderless ⟨'-', ['>']⟩ := by decide
  have each : ∀ item ∈ ["a - >b", "-", ">"], IsItem ⟨'-', ['>']⟩ item := by decide
  have text : (Separator.text ⟨'-', ['>']⟩).intercalate ["a - >b", "-", ">"] = "a - >b->-->>" := by
    decide +kernel
  refine ⟨arrow, each, ?_⟩
  rw [← text]
  exact (items_written_and_found.2 "arrow-list" _ arrow).written _ each

/-! ### Sets -/

/-- The elements of a list, each once: those that are left when every later repetition is removed,
in the order in which they first occur. -/
structure EachOnce (items kept : List String) : Prop where
  nodup : kept.Nodup
  mem_iff : ∀ s, s ∈ kept ↔ s ∈ items
  order : kept.Pairwise fun s t => items.idxOf s < items.idxOf t
  removed : WithoutRepetitions items kept

theorem eachOnce_eraseDups (items : List String) : EachOnce items items.eraseDups := by
  have removed : WithoutRepetitions items items.eraseDups := withoutRepetitions_iff.2 rfl
  exact ⟨removed.nodup, removed.mem_iff, removed.pairwise_idxOf, removed⟩

theorem separatedSet_intercalate (kind : String) {sep : Separator} (borderless : sep.Borderless)
    {items : List String} (each : ∀ item ∈ items, IsItem sep item) :
    (separatedSet kind sep).convert (sep.text.intercalate items.eraseDups) =
      .ok (ofTexts items.eraseDups) := by
  have kept : ∀ item ∈ items.eraseDups, IsItem sep item := by
    intro item mem
    exact each item (List.mem_eraseDups.1 mem)
  simp only [separatedSet, items_intercalate_of_isItem borderless kept, eraseDups_eraseDups]

/-- A set is the list of the same texts without repetitions, and it is found again in the text that
it is written as. -/
theorem stringSet_eachOnce :
    (∀ texts, ∃ items kept, stringList.convertAll texts = .ok (ofTexts items) ∧
      stringSet.convertAll texts = .ok (ofTexts kept) ∧ EachOnce items kept ∧
      stringSet.convert (",".intercalate kept) = .ok (ofTexts kept)) ∧
    ∀ s, ∃ items kept, stringList.convert s = .ok (ofTexts items) ∧
      stringSet.convert s = .ok (ofTexts kept) ∧ EachOnce items kept ∧
      stringSet.convert (",".intercalate kept) = .ok (ofTexts kept) := by
  have settled {items : List String} (each : ∀ item ∈ items, IsItem comma item) :
      stringSet.convert (",".intercalate items.eraseDups) = .ok (ofTexts items.eraseDups) := by
    rw [← text_comma]
    exact separatedSet_intercalate "string-set" borderless_comma each
  constructor
  · intro texts
    refine ⟨itemsOfAll comma texts, _, rfl, ?_, eachOnce_eraseDups _, settled ?_⟩
    · simp only [stringSet, separatedSet, eraseDups_flatMap_eraseDups, itemsOfAll]
    · intro item mem
      obtain ⟨s, _, known⟩ := List.mem_flatMap.1 mem
      exact isItem_of_mem_items known
  · intro s
    refine ⟨items comma s, _, rfl, rfl, eachOnce_eraseDups _, settled ?_⟩
    intro item mem
    exact isItem_of_mem_items mem

end QueryBinding.Converter
