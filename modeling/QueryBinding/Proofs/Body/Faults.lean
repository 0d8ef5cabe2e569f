import QueryBinding.Proofs.Body.Keys
import QueryBinding.Proofs.Catalog.Rejection
import QueryBinding.Proofs.Query.Sorting
/-!
What comes of a body whose sort keys are admitted. Everything in it is read before anything is
decided: the sorting first, then the fields in the order of their declaration. The first value that
cannot be read decides, and requests are told its parameter and the value at fault; only a body that
is read as a whole can fail by a sort field.
-/
namespace QueryBinding

open Reading

namespace QueryType

variable {type : QueryType} {body : List (String × Datum)} {items : List Datum}
  {criteria : List SortCriterion}

/-- If the body has a value for the field, the field can be read from it. -/
def Valid (type : QueryType) (body : List (String × Datum)) (field : Field) : Prop :=
  ∀ p ∈ type.parameters.toList, p.field = field.name → ∀ d, bodyValue? body p.name = some d →
    ∃ v, field.read d = .ok v

/-- What comes of a body with the given criteria under its sort keys and the given items of its
sorting. -/
inductive Verdict (type : QueryType) (body : List (String × Datum)) (criteria : List SortCriterion)
    (items : List Datum) : Except Failure Query → Prop
  | badItem {before : List Datum} {d : Datum} {after : List Datum} {issue : Issue}
      (cut : items = before ++ d :: after) (reads : ∀ b ∈ before, ∃ c, readCriterion b = .ok c)
      (fails : FailsFirst issue (readCriterion d)) :
    Verdict type body criteria items
      (.error (.binding sortingField issue.input (.fault issue.fault)))
  | badValue {more : List SortCriterion} {before : List Field} {field : Field} {after : List Field}
      {p : Parameter} {d : Datum} {issue : Issue}
      (reads : readItems readCriterion items = .ok more)
      (cut : type.fields = before ++ field :: after) (valid : ∀ f ∈ before, type.Valid body f)
      (described : p ∈ type.parameters.toList) (sets : p.field = field.name)
      (held : bodyValue? body p.name = some d) (fails : FailsFirst issue (field.read d)) :
    Verdict type body criteria items (.error (.binding p.name issue.input (.fault issue.fault)))
  | unlisted {more before : List SortCriterion} {c : SortCriterion} {after : List SortCriterion}
      (reads : readItems readCriterion items = .ok more)
      (valid : ∀ f ∈ type.fields, type.Valid body f) (cut : more = before ++ c :: after)
      (listed : ∀ b ∈ before, b.field ∈ type.sortFields.names)
      (unknown : c.field ∉ type.sortFields.names) :
    Verdict type body criteria items (.error (.sortField c.field type.name))
  | made {more : List SortCriterion} {given : List (String × Datum)}
      (reads : readItems readCriterion items = .ok more)
      (valid : ∀ f ∈ type.fields, type.Valid body f)
      (gives : Field.readGiven type.fields (.object (type.bodyValues body)) = .ok given)
      (listed : ∀ c ∈ more, c.field ∈ type.sortFields.names) :
    Verdict type body criteria items (.ok ⟨type, given, sortingOf (criteria ++ more)⟩)

/-! ### Values of a body -/

theorem exists_readFrom_iff {field : Field} (optional : field.default.isSome = true) :
    (∃ entry, field.readFrom (.object (type.bodyValues body)) = .ok entry) ↔
      type.Valid body field := by
  constructor
  · rintro ⟨entry, reads⟩ p described sets d held
    have found : (type.bodyValues body).lookup field.name = some d := by
      rw [← sets, lookup_bodyValues_of_mem body described, held]
    rcases Field.readFrom_eq_ok reads with ⟨e, v, same, read, _⟩ | ⟨missing, _⟩
    · cases found.symm.trans same
      exact ⟨v, read⟩
    · cases found.symm.trans missing
  · intro valid
    cases found : (type.bodyValues body).lookup field.name with
    | none => exact ⟨none, Field.readFrom_eq_none optional found⟩
    | some d =>
      obtain ⟨p, described, sets, held⟩ := exists_parameter_of_lookup found
      obtain ⟨v, read⟩ := valid p described sets d held
      exact ⟨some (field.name, v), by
        rw [Field.readFrom, Datum.get?, found, inside_eq_ok, map_eq_ok]
        exact ⟨v, read, rfl⟩⟩

theorem exists_readGiven_of_valid (optional : ∀ field ∈ type.fields, field.default.isSome = true)
    (valid : ∀ field ∈ type.fields, type.Valid body field) :
    ∃ given, Field.readGiven type.fields (.object (type.bodyValues body)) = .ok given :=
  Field.exists_readGiven_iff.2 fun field mem =>
    (exists_readFrom_iff (optional field mem)).2 (valid field mem)

/-! ### Reading a body -/

theorem read_failsFirst_of_item (visible : type.replacesSorting = false)
    (body : List (String × Datum)) {before : List Datum} {d : Datum} (after : List Datum)
    {issue : Issue} (reads : ∀ b ∈ before, ∃ c, readCriterion b = .ok c)
    (fails : FailsFirst issue (readCriterion d)) :
    ∃ i, FailsFirst ((issue.inside (.index i)).inside (.name sortingField))
      (type.read (type.bodyValues body ++ sortingEntry (before ++ d :: after))) := by
  obtain ⟨i, items⟩ := failsFirst_readItems after reads fails
  refine ⟨i, FailsFirst.map (.both ?_ _) _⟩
  have mem : d ∈ before ++ d :: after := List.mem_append_right _ List.mem_cons_self
  have found := lookup_bodyValues_append mem type body
  simp only [readSorting, found, visible]
  exact (items.map some).inside _

theorem read_failsFirst_of_field (visible : type.replacesSorting = false)
    (optional : ∀ field ∈ type.fields, field.default.isSome = true) {more : List SortCriterion}
    {before after : List Field} {field : Field} {p : Parameter} {d : Datum} {issue : Issue}
    (reads : readItems readCriterion items = .ok more)
    (cut : type.fields = before ++ field :: after) (valid : ∀ f ∈ before, type.Valid body f)
    (described : p ∈ type.parameters.toList) (sets : p.field = field.name)
    (held : bodyValue? body p.name = some d) (fails : FailsFirst issue (field.read d)) :
    FailsFirst (issue.inside (.name field.name))
      (type.read (type.bodyValues body ++ sortingEntry items)) := by
  have early : ∀ f ∈ before, f ∈ type.fields := fun f mem => cut ▸ List.mem_append_left _ mem
  have known : field ∈ type.fields := cut ▸ List.mem_append_right _ List.mem_cons_self
  have sorted : type.readSorting (type.bodyValues body ++ sortingEntry items) =
      .ok (sortingOf more) := by
    refine readSorting_append visible (fun entry mem => ?_) reads
    obtain ⟨f, isField, same⟩ := List.mem_map.1 (type.mem_names_of_bodyValues body entry mem)
    exact same ▸ ne_sortingField_of_mem visible isField
  have passed : ∀ f ∈ before, ∃ entry,
      f.readFrom (.object (type.bodyValues body ++ sortingEntry items)) = .ok entry := by
    intro f mem
    have isField := early f mem
    obtain ⟨entry, read⟩ := (exists_readFrom_iff (optional f isField)).2 (valid f mem)
    exact ⟨entry, Field.readFrom_of_get? (get?_append_sortingEntry visible isField _ items) read⟩
  have found : (Datum.object (type.bodyValues body ++ sortingEntry items)).get? field.name =
      some d := by
    rw [get?_append_sortingEntry visible known, Datum.get?, ← sets,
      lookup_bodyValues_of_mem body described, held]
  have given := Field.failsFirst_readGiven after passed found fails
  rw [← cut] at given
  exact (FailsFirst.after_ok sorted (given.both _)).map _

/-! ### The verdict -/

theorem judge_of_failsFirst {issue : Issue} {x : Reading Query} (fails : FailsFirst issue x) :
    type.judge x = .error (type.bindingFailure issue) := by
  obtain ⟨issues, rfl, rfl⟩ := fails
  rfl

theorem bindingFailure_inside (type : QueryType) (field : String) (issue : Issue) :
    type.bindingFailure (issue.inside (.name field)) =
      .binding (type.parameters.externalName field) issue.input (.fault issue.fault) := rfl

theorem accept_of_unlisted (visible : type.replacesSorting = false)
    {given : List (String × Datum)} {before after : List SortCriterion} {c : SortCriterion}
    (listed : ∀ b ∈ before, b.field ∈ type.sortFields.names)
    (unknown : c.field ∉ type.sortFields.names) :
    accept ⟨type, given, sortingOf (before ++ c :: after)⟩ =
      .error (.sortField c.field type.name) := by
  have checked : type.checkSortFields ((before ++ c :: after).map (·.field)) =
      .error (.sortField c.field type.name) := by
    refine checkSortFields_eq_error.2 ⟨before.map (·.field), c.field, after.map (·.field),
      List.map_append, List.forall_mem_map.2 fun b mem => ?_,
      SortWhitelist.contains_eq_false.2 unknown, rfl⟩
    exact SortWhitelist.contains_eq_true.2 (listed b mem)
  rw [accept, ordering_sortingOf visible]
  simp only [bind, Except.bind, resolve, checked]
  rfl

/-- Whatever a body has, it comes to something. -/
theorem exists_verdict (optional : ∀ field ∈ type.fields, field.default.isSome = true)
    (body : List (String × Datum)) (criteria : List SortCriterion) (items : List Datum) :
    ∃ result, type.Verdict body criteria items result := by
  rcases forall_or_exists_first (fun d => ∃ c, readCriterion d = .ok c) items with
    reads | ⟨before, d, after, cut, reads, fails⟩
  · obtain ⟨more, reads⟩ := exists_readItems reads
    rcases forall_or_exists_first (type.Valid body) type.fields with
      valid | ⟨before, field, after, cut, valid, invalid⟩
    · rcases forall_or_exists_first (·.field ∈ type.sortFields.names) more with
        listed | ⟨before, c, after, cut, listed, unknown⟩
      · obtain ⟨given, gives⟩ := exists_readGiven_of_valid optional valid
        exact ⟨_, .made reads valid gives listed⟩
      · exact ⟨_, .unlisted reads valid cut listed unknown⟩
    · simp only [Valid, not_forall] at invalid
      obtain ⟨p, described, sets, d, held, invalid⟩ := invalid
      obtain ⟨issue, fails⟩ := (ok_or_failsFirst _).resolve_left invalid
      exact ⟨_, .badValue reads cut valid described sets held fails⟩
  · obtain ⟨issue, fails⟩ := (ok_or_failsFirst _).resolve_left fails
    exact ⟨_, .badItem cut reads fails⟩

section Verdicts

variable (visible : type.replacesSorting = false)
  (optional : ∀ field ∈ type.fields, field.default.isSome = true)
  {fields orders : List String}
  (named : GivesTexts (body.lookup SortCriterion.byKey) fields)
  (directed : GivesTexts (body.lookup SortCriterion.orderKey) orders)
  (paired : type.criteriaOf fields orders = .ok criteria)
  (listed : GivesItems (body.lookup sortingField) items)

include visible optional named directed paired listed

theorem Verdict.fromBody_eq {result : Except Failure Query}
    (verdict : type.Verdict body criteria items result) : type.fromBody body = result := by
  rw [fromBody_eq_judge (sortValues_eq_ok.2 named) (sortValues_eq_ok.2 directed) paired
    (sortingItems_eq_ok.2 listed)]
  have admitted : ∀ c ∈ criteria, c.field ∈ type.sortFields.names := fun c mem =>
    SortWhitelist.contains_eq_true.1 (forall_listed_of_criteriaOf paired c mem)
  cases verdict with
  | @badItem before d after issue cut reads fails =>
    have early : ∀ b ∈ criteria.map Datum.criterion ++ before, ∃ c, readCriterion b = .ok c := by
      intro b mem
      rcases List.mem_append.1 mem with mem | mem
      · obtain ⟨c, _, rfl⟩ := List.mem_map.1 mem
        exact ⟨c, rfl⟩
      · exact reads b mem
    obtain ⟨i, first⟩ := read_failsFirst_of_item visible body after early fails
    rw [cut, ← List.append_assoc, judge_of_failsFirst first, bindingFailure_inside,
      externalName_sortingField]
    rfl
  | badValue reads cut valid described sets held fails =>
    have first := read_failsFirst_of_field visible optional
      (readItems_criteria_append criteria reads) cut valid described sets held fails
    rw [judge_of_failsFirst first, bindingFailure_inside, ← sets,
      ParameterTable.externalName_field described]
  | @unlisted more before c after reads valid cut whitelisted unknown =>
    obtain ⟨given, gives⟩ := exists_readGiven_of_valid optional valid
    have read := read_of_given visible (type.mem_names_of_bodyValues body) gives
      (readItems_criteria_append criteria reads)
    have early : ∀ b ∈ criteria ++ before, b.field ∈ type.sortFields.names := fun b mem =>
      (List.mem_append.1 mem).elim (admitted b) (whitelisted b)
    rw [read, cut, ← List.append_assoc]
    exact accept_of_unlisted visible early unknown
  | @made more given reads valid gives whitelisted =>
    have read := read_of_given visible (type.mem_names_of_bodyValues body) gives
      (readItems_criteria_append criteria reads)
    rw [read]
    refine accept_sortingOf visible fun c mem => SortWhitelist.contains_eq_true.2 ?_
    exact (List.mem_append.1 mem).elim (admitted c) (whitelisted c)

theorem fromBody_eq_iff {result : Except Failure Query} :
    type.fromBody body = result ↔ type.Verdict body criteria items result := by
  constructor
  · rintro rfl
    obtain ⟨result, verdict⟩ := exists_verdict optional body criteria items
    exact verdict.fromBody_eq visible optional named directed paired listed ▸ verdict
  · exact Verdict.fromBody_eq visible optional named directed paired listed

end Verdicts

/-- The value that is told is in what the body has under the name that is told. -/
theorem Verdict.exists_within {parameter : String} {value : Datum} {reason : Reason}
    (listed : GivesItems (body.lookup sortingField) items)
    (verdict : type.Verdict body criteria items (.error (.binding parameter value reason))) :
    ∃ whole, body.lookup parameter = some whole ∧ value.Within whole := by
  cases verdict with
  | @badItem before d after issue cut reads fails =>
    have mem : d ∈ items := cut ▸ List.mem_append_right _ List.mem_cons_self
    generalize body.lookup sortingField = held at listed ⊢
    cases listed with
    | absent => cases mem
    | null => cases mem
    | list => exact ⟨_, rfl, .item mem (fails.reported (reports_readCriterion d))⟩
  | @badValue more before field after p d issue reads cut valid described sets held fails =>
    obtain ⟨held, _⟩ := Option.filter_eq_some_iff.1 held
    exact ⟨d, held, fails.reported (field.reports_read d)⟩

end QueryType

namespace Catalog

theorem forall_optional (t : Catalog) :
    ∀ field ∈ t.queryType.fields, field.default.isSome = true := by
  intro field mem
  rw [t.hasFacets.fields] at mem
  obtain ⟨f, _, rfl⟩ := List.mem_map.1 mem
  rfl

end Catalog
end QueryBinding
