import QueryBinding.Proofs.Query.Source
/-!
Values that fit the fields of a type, in the fields' order. Fitting values that are written down
under the names of their fields are read back as they were, in any form from which each of them can
be read by itself; so reading a query from them needs no look at the type at hand.
-/
namespace QueryBinding

open Reading

namespace Field

variable {fields : List Field} {given : List (String × Datum)}

/-- Values of the fields, each of its field's type; a field that may be left out can be missing. -/
inductive Fits : List Field → List (String × Datum) → Prop
  | nil : Fits [] []
  | skip {field : Field} {fields : List Field} {given : List (String × Datum)}
      (optional : field.default.isSome = true) (rest : Fits fields given) :
      Fits (field :: fields) given
  | take {field : Field} {fields : List Field} {given : List (String × Datum)} {d : Datum}
      (typed : field.type.Holds d) (rest : Fits fields given) :
      Fits (field :: fields) ((field.name, d) :: given)

theorem Fits.mem_names (fits : Fits fields given) :
    ∀ entry ∈ given, entry.1 ∈ fields.map (·.name) := by
  induction fits with
  | nil => simp
  | skip _ _ ih => exact fun entry mem => List.mem_cons_of_mem _ (ih entry mem)
  | take _ _ ih =>
    intro entry mem
    rcases List.mem_cons.1 mem with rfl | mem
    · exact List.mem_cons_self
    · exact List.mem_cons_of_mem _ (ih entry mem)

theorem Fits.nodup_names (fits : Fits fields given) (nodup : (fields.map (·.name)).Nodup) :
    (Entries.keys given).Nodup := by
  induction fits with
  | nil => exact List.nodup_nil
  | skip _ _ ih =>
    rw [List.map_cons, List.nodup_cons] at nodup
    exact ih nodup.2
  | @take field _ _ _ _ rest ih =>
    rw [List.map_cons, List.nodup_cons] at nodup
    refine List.nodup_cons.2 ⟨fun again => ?_, ih nodup.2⟩
    obtain ⟨entry, mem, same⟩ := List.mem_map.1 again
    have named : entry.1 = field.name := same
    exact nodup.1 (named ▸ rest.mem_names entry mem)

theorem Fits.exists_holds (fits : Fits fields given) :
    ∀ entry ∈ given, ∃ field ∈ fields, field.name = entry.1 ∧ field.type.Holds entry.2 := by
  induction fits with
  | nil => simp
  | skip _ _ ih =>
    intro entry mem
    obtain ⟨field, known, holds⟩ := ih entry mem
    exact ⟨field, List.mem_cons_of_mem _ known, holds⟩
  | @take field _ _ _ typed _ ih =>
    intro entry mem
    rcases List.mem_cons.1 mem with rfl | mem
    · exact ⟨field, List.mem_cons_self, rfl, typed⟩
    · obtain ⟨other, known, holds⟩ := ih entry mem
      exact ⟨other, List.mem_cons_of_mem _ known, holds⟩

/-- Fitting values are read from whatever holds them under the names of their fields. -/
theorem readGiven_of_fits {write : Datum → Datum} {whole : Datum} (fits : Fits fields given)
    (nodup : (fields.map (·.name)).Nodup)
    (written : ∀ field ∈ fields, whole.get? field.name = (given.lookup field.name).map write)
    (back : ∀ field ∈ fields, ∀ d, field.type.Holds d → field.read (write d) = .ok d) :
    readGiven fields whole = .ok given := by
  induction fits with
  | nil => rfl
  | @skip field fields given optional rest ih =>
    rw [List.map_cons, List.nodup_cons] at nodup
    have missing : whole.get? field.name = none := by
      rw [written field List.mem_cons_self, Entries.lookup_eq_none rest.mem_names nodup.1]
      rfl
    have tail := ih nodup.2 (fun other mem => written other (List.mem_cons_of_mem _ mem))
      fun other mem => back other (List.mem_cons_of_mem _ mem)
    exact readGiven_cons_eq_ok.2 ⟨none, given, readFrom_eq_none optional missing, tail, rfl⟩
  | @take field fields given d typed rest ih =>
    rw [List.map_cons, List.nodup_cons] at nodup
    have found : whole.get? field.name = some (write d) := by
      rw [written field List.mem_cons_self, List.lookup_cons_self]
      rfl
    have head : field.readFrom whole = .ok (some (field.name, d)) := by
      simp only [readFrom, found, back field List.mem_cons_self d typed, Except.map, inside]
    have others : ∀ other ∈ fields,
        whole.get? other.name = (given.lookup other.name).map write := by
      intro other mem
      have differs : other.name ≠ field.name := fun same =>
        nodup.1 (same ▸ List.mem_map_of_mem mem)
      rw [written other (List.mem_cons_of_mem _ mem), List.lookup_cons,
        beq_eq_false_iff_ne.2 differs]
    have tail := ih nodup.2 others fun other mem => back other (List.mem_cons_of_mem _ mem)
    exact readGiven_cons_eq_ok.2 ⟨_, given, head, tail, rfl⟩

end Field

namespace QueryType

variable {type : QueryType} {given : List (String × Datum)}

/-- The sorting of a query with the given criteria: none at all, if there are no criteria. -/
def sortingOf (criteria : List SortCriterion) : Option (List SortCriterion) :=
  if criteria.isEmpty then none else some criteria

theorem ordering_sortingOf {criteria : List SortCriterion} (visible : type.replacesSorting = false) :
    Query.ordering ⟨type, given, sortingOf criteria⟩ = .ok criteria := by
  simp only [Query.ordering, visible, Bool.false_eq_true, if_false, Query.criteria]
  cases criteria <;> rfl

theorem accept_sortingOf {criteria : List SortCriterion} (visible : type.replacesSorting = false)
    (listed : ∀ c ∈ criteria, type.sortFields.contains c.field = true) :
    accept ⟨type, given, sortingOf criteria⟩ = .ok ⟨type, given, sortingOf criteria⟩ :=
  accept_eq_ok.2 ⟨rfl, criteria, ordering_sortingOf visible, listed⟩

theorem mem_sortingEntry {items : List Datum} {entry : String × Datum}
    (mem : entry ∈ sortingEntry items) : entry.1 = sortingField := by
  unfold sortingEntry at mem
  split at mem
  · cases mem
  · rw [List.mem_singleton.1 mem]

theorem sortingEntry_of_mem {items : List Datum} {item : Datum} (mem : item ∈ items) :
    sortingEntry items = [(sortingField, .list items)] := by
  rw [sortingEntry, List.isEmpty_eq_false_iff.2 (List.ne_nil_of_mem mem),
    if_neg Bool.false_ne_true]

theorem lookup_sortingEntry {name : String} (other : name ≠ sortingField) (items : List Datum) :
    (sortingEntry items).lookup name = none :=
  List.lookup_eq_none_iff.2 fun _ mem => bne_iff_ne.2 (mem_sortingEntry mem ▸ other)

theorem lookup_sortingField {values : List (String × Datum)}
    (others : ∀ entry ∈ values, entry.1 ≠ sortingField) : values.lookup sortingField = none :=
  List.lookup_eq_none_iff.2 fun entry mem => bne_iff_ne.2 (others entry mem).symm

theorem lookup_append_sortingEntry {values : List (String × Datum)}
    (unsorted : values.lookup sortingField = none) {items : List Datum} (given : items ≠ []) :
    (values ++ sortingEntry items).lookup sortingField = some (.list items) := by
  obtain ⟨item, mem⟩ := List.exists_mem_of_ne_nil items given
  rw [List.lookup_append, unsorted, Option.none_or, sortingEntry_of_mem mem, List.lookup_cons_self]

theorem ne_sortingField_of_mem (visible : type.replacesSorting = false) {field : Field}
    (mem : field ∈ type.fields) : field.name ≠ sortingField := by
  intro same
  have hidden : type.replacesSorting = true := List.any_eq_true.2 ⟨field, mem, beq_iff_eq.2 same⟩
  rw [visible] at hidden
  cases hidden

theorem readSorting_append {entries : List (String × Datum)} {items : List Datum}
    {criteria : List SortCriterion} (visible : type.replacesSorting = false)
    (others : ∀ entry ∈ entries, entry.1 ≠ sortingField)
    (reads : readItems readCriterion items = .ok criteria) :
    type.readSorting (entries ++ sortingEntry items) = .ok (sortingOf criteria) := by
  have found : (entries ++ sortingEntry items).lookup sortingField =
      (sortingEntry items).lookup sortingField := by
    rw [List.lookup_append, lookup_sortingField others, Option.none_or]
  rw [readSorting, found]
  -- There are as many criteria as items, so either both lists are empty or none is.
  have lengths := congrArg List.length (readItems_eq_ok.1 reads)
  rw [List.length_map, List.length_map] at lengths
  cases items with
  | nil =>
    rw [List.eq_nil_of_length_eq_zero lengths.symm]
    rfl
  | cons item items =>
    cases criteria with
    | nil => cases lengths
    | cons c criteria =>
      have entry : (sortingEntry (item :: items)).lookup sortingField =
          some (.list (item :: items)) := List.lookup_cons_self
      simp only [entry, visible, Bool.false_eq_true, if_false, readCriteria, reads]
      rfl

theorem exists_of_readSorting {sorting : Option (List SortCriterion)}
    {values : List (String × Datum)} {items : List Datum} (visible : type.replacesSorting = false)
    (others : ∀ entry ∈ values, entry.1 ≠ sortingField)
    (reads : type.readSorting (values ++ sortingEntry items) = .ok sorting) :
    ∃ criteria, readItems readCriterion items = .ok criteria ∧ sorting = sortingOf criteria := by
  cases each : readItems readCriterion items with
  | ok criteria =>
    rw [readSorting_append visible others each] at reads
    exact ⟨criteria, rfl, (Except.ok.inj reads).symm⟩
  | error issues =>
    cases items with
    | nil => cases each
    | cons item items =>
      have unsorted := lookup_sortingField others
      have entry := lookup_append_sortingEntry unsorted (List.cons_ne_nil item items)
      simp only [readSorting, entry, visible, Bool.false_eq_true, if_false, readCriteria, each]
        at reads
      cases reads

/-- Criteria that are read already stay what they are. -/
theorem readItems_criteria_append (criteria : List SortCriterion) {more : List SortCriterion}
    {items : List Datum} (reads : readItems readCriterion items = .ok more) :
    readItems readCriterion (criteria.map .criterion ++ items) = .ok (criteria ++ more) := by
  have ready : criteria.map (readCriterion ∘ .criterion) = criteria.map .ok := rfl
  rw [readItems_eq_ok, List.map_append, List.map_append, List.map_map, ready,
    readItems_eq_ok.1 reads]

theorem exists_of_readItems_append {items : List Datum} {front all : List SortCriterion}
    (reads : readItems readCriterion (front.map .criterion ++ items) = .ok all) :
    ∃ back, readItems readCriterion items = .ok back ∧ all = front ++ back := by
  have self : (front.map Datum.criterion).map readCriterion = front.map .ok := by
    rw [List.map_map]
    rfl
  rw [readItems_eq_ok, List.map_append, self] at reads
  obtain ⟨first, back, rfl, same, rest⟩ := List.append_eq_map_iff.1 reads
  have isFront : front = first := List.map_injective_iff.2 (fun _ _ => Except.ok.inj) same.symm
  exact ⟨back, readItems_eq_ok.2 rest.symm, by rw [isFront]⟩

theorem readOthers_eq_ok {entries : List (String × Datum)}
    (known : ∀ entry ∈ entries, entry.1 ∈ sortingField :: type.fields.map (·.name)) :
    type.readOthers entries = .ok () := by
  unfold readOthers Field.unexpected
  rw [List.filter_eq_nil_iff.2 fun entry mem => ?_]
  · rfl
  · simp only [List.contains_iff_mem.2 (known entry mem)]
    decide

theorem get?_append_sortingEntry (visible : type.replacesSorting = false) {field : Field}
    (mem : field ∈ type.fields) (entries : List (String × Datum)) (items : List Datum) :
    (Datum.object (entries ++ sortingEntry items)).get? field.name =
      (Datum.object entries).get? field.name := by
  have other := ne_sortingField_of_mem visible mem
  rw [Datum.get?, Datum.get?, List.lookup_append, lookup_sortingEntry other, Option.or_none]

/-- A query is read from entries of its fields, and from items that its criteria are read from. -/
theorem read_of_given {entries : List (String × Datum)} {items : List Datum}
    {criteria : List SortCriterion} (visible : type.replacesSorting = false)
    (names : ∀ entry ∈ entries, entry.1 ∈ type.fields.map (·.name))
    (gives : Field.readGiven type.fields (.object entries) = .ok given)
    (reads : readItems readCriterion items = .ok criteria) :
    type.read (entries ++ sortingEntry items) = .ok ⟨type, given, sortingOf criteria⟩ := by
  have apart : ∀ entry ∈ entries, entry.1 ≠ sortingField := by
    intro entry mem
    obtain ⟨field, known, same⟩ := List.mem_map.1 (names entry mem)
    exact same ▸ ne_sortingField_of_mem visible known
  have nothingElse : type.readOthers (entries ++ sortingEntry items) = .ok () := by
    refine readOthers_eq_ok fun entry mem => ?_
    rcases List.mem_append.1 mem with mem | mem
    · exact List.mem_cons_of_mem _ (names entry mem)
    · rw [mem_sortingEntry mem]
      exact List.mem_cons_self
  have sorted := readSorting_append visible apart reads
  have given := Field.readGiven_of_get?
    (fun field mem => get?_append_sortingEntry visible mem entries items) gives
  rw [QueryType.read, sorted, given, nothingElse]
  rfl

/-- A query is read from its own values and criteria, in any form from which each of these can be
read. -/
theorem read_of_fits (write : Datum → Datum) {items : List Datum} {criteria : List SortCriterion}
    (fits : Field.Fits type.fields given) (nodup : (type.fields.map (·.name)).Nodup)
    (visible : type.replacesSorting = false)
    (back : ∀ field ∈ type.fields, ∀ d, field.type.Holds d → field.read (write d) = .ok d)
    (reads : readItems readCriterion items = .ok criteria) :
    type.read (given.map (fun (name, d) => (name, write d)) ++ sortingEntry items) =
      .ok ⟨type, given, sortingOf criteria⟩ := by
  refine read_of_given visible ?_ (Field.readGiven_of_fits fits nodup ?_ back) reads
  · intro entry mem
    obtain ⟨pair, known, rfl⟩ := List.mem_map.1 mem
    exact fits.mem_names pair known
  · intro field _
    rw [Datum.get?, Entries.lookup_map_snd]

end QueryType
end QueryBinding
