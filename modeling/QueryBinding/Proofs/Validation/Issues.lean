import QueryBinding.Proofs.Validation.Reading
/-!
Readings that fail. A reading that goes through named parts of its input reports only what lies
under these names, however deep inside and however much is wrong. What it tells of the input is the
input itself or a value inside it, and the first issue that it tells is the first one that it meets.
-/
namespace QueryBinding

/-- A value is another one, or is in one of its items or entries. -/
inductive Datum.Within : Datum → Datum → Prop
  | refl (d : Datum) : Within d d
  | item {d e : Datum} {items : List Datum} (mem : e ∈ items) (within : Within d e) :
    Within d (.list items)
  | entry {d e : Datum} {key : String} {entries : List (String × Datum)}
    (mem : (key, e) ∈ entries) (within : Within d e) : Within d (.object entries)

/-- Tells of the value or of what is inside it. -/
def Issue.IsIn (whole : Datum) (issue : Issue) : Prop := issue.input.Within whole

/-- Lies in a part of the input that has one of the names. -/
def Issue.LiesUnder (names : String → Prop) (issue : Issue) : Prop :=
  ∃ name, names name ∧ issue.path.head? = some (.name name)

namespace Reading

variable {expected : Issue → Prop} {names : String → Prop}

/-- Reports no issues but expected ones. -/
def Reports (expected : Issue → Prop) (x : Reading α) : Prop :=
  FailsOnly (fun issues => ∀ issue ∈ issues.toList, expected issue) x

theorem Reports.both {x : Reading α} {y : Reading β} (hx : Reports expected x)
    (hy : Reports expected y) : Reports expected (both x y) := by
  cases x with
  | ok a =>
    cases y with
    | ok b => exact .ok (a, b)
    | error issues => exact .error (hy issues rfl)
  | error issues =>
    cases y with
    | ok b => exact .error (hx issues rfl)
    | error more =>
      refine .error fun issue mem => ?_
      rw [Issues.toList_append, List.mem_append] at mem
      exact mem.elim (hx issues rfl issue) (hy more rfl issue)

theorem Reports.gather {read : α → Reading β} {as : List α}
    (each : ∀ a ∈ as, Reports expected (read a)) : Reports expected (gather read as) := by
  induction as with
  | nil => exact .ok []
  | cons a as ih =>
    have rest := ih fun b mem => each b (List.mem_cons_of_mem _ mem)
    exact FailsOnly.map _ ((each a List.mem_cons_self).both rest)

theorem Reports.ofIssues {issues : List Issue} (h : ∀ issue ∈ issues, expected issue) :
    Reports expected (ofIssues issues) := by
  cases issues with
  | nil => exact .ok ()
  | cons first rest => exact .error h

theorem Reports.inside {whole : Datum} {x : Reading α} (hx : Reports (Issue.IsIn whole) x)
    (step : PathStep) : Reports (Issue.IsIn whole) (inside step x) := by
  cases x with
  | ok a => exact .ok a
  | error issues =>
    refine .error fun issue mem => ?_
    rw [Issues.toList_map] at mem
    obtain ⟨inner, known, rfl⟩ := List.mem_map.1 mem
    exact hx issues rfl inner known

theorem Reports.deeper {part whole : Datum} {x : Reading α} (hx : Reports (Issue.IsIn part) x)
    (deeper : ∀ {d : Datum}, d.Within part → d.Within whole) : Reports (Issue.IsIn whole) x :=
  hx.mono fun _ all issue mem => deeper (all issue mem)

theorem reports_refuse (fault : Fault) (d : Datum) :
    Reports (Issue.IsIn d) (refuse fault d : Reading α) :=
  .error fun _ mem => List.mem_singleton.1 mem ▸ .refl d

theorem reports_inside {name : String} (known : names name) (x : Reading α) :
    Reports (Issue.LiesUnder names) (inside (.name name) x) := by
  cases x with
  | ok a => exact .ok a
  | error issues =>
    refine .error fun issue mem => ?_
    rw [Issues.toList_map] at mem
    obtain ⟨inner, _, rfl⟩ := List.mem_map.1 mem
    exact ⟨name, known, rfl⟩

/-! ### The first issue -/

/-- Fails, and meets the issue first. -/
def FailsFirst (issue : Issue) (x : Reading α) : Prop :=
  ∃ issues, x = .error issues ∧ issues.first = issue

theorem ok_or_failsFirst (x : Reading α) : (∃ a, x = .ok a) ∨ ∃ issue, FailsFirst issue x := by
  cases x with
  | ok a => exact .inl ⟨a, rfl⟩
  | error issues => exact .inr ⟨_, issues, rfl, rfl⟩

namespace FailsFirst

variable {issue : Issue} {x : Reading α} {y : Reading β}

theorem reported (fails : FailsFirst issue x) (reports : Reports expected x) : expected issue := by
  obtain ⟨issues, rfl, rfl⟩ := fails
  exact reports issues rfl issues.first List.mem_cons_self

theorem map (fails : FailsFirst issue x) (f : α → β) : FailsFirst issue (x.map f) := by
  obtain ⟨issues, rfl, same⟩ := fails
  exact ⟨issues, rfl, same⟩

theorem inside (fails : FailsFirst issue x) (step : PathStep) :
    FailsFirst (issue.inside step) (inside step x) := by
  obtain ⟨issues, rfl, rfl⟩ := fails
  exact ⟨_, rfl, rfl⟩

theorem both (fails : FailsFirst issue x) (y : Reading β) : FailsFirst issue (both x y) := by
  obtain ⟨issues, rfl, same⟩ := fails
  cases y <;> exact ⟨_, rfl, same⟩

theorem after_ok {a : α} (reads : x = .ok a) (fails : FailsFirst issue y) :
    FailsFirst issue (Reading.both x y) := by
  obtain ⟨issues, rfl, same⟩ := fails
  exact ⟨issues, by rw [reads]; rfl, same⟩

theorem gather {read : α → Reading β} {before after : List α} {a : α}
    (reads : ∀ b ∈ before, ∃ v, read b = .ok v) (fails : FailsFirst issue (read a)) :
    FailsFirst issue (gather read (before ++ a :: after)) := by
  induction before with
  | nil => exact (fails.both _).map _
  | cons b before ih =>
    obtain ⟨⟨v, first⟩, others⟩ := List.forall_mem_cons.1 reads
    exact (after_ok first (ih others)).map _

end FailsFirst

end Reading

open Reading

theorem failsFirst_readItems {read : Datum → Reading α} {before : List Datum} {d : Datum}
    {issue : Issue} (after : List Datum) (reads : ∀ b ∈ before, ∃ a, read b = .ok a)
    (fails : FailsFirst issue (read d)) :
    ∃ i, FailsFirst (issue.inside (.index i)) (readItems read (before ++ d :: after)) := by
  rw [readItems, List.zipIdx_append, List.zipIdx_cons]
  refine ⟨_, .gather (fun pair mem => ?_) (fails.inside _)⟩
  obtain ⟨a, read⟩ := reads pair.1 (List.fst_mem_of_mem_zipIdx mem)
  exact ⟨a, inside_eq_ok.2 read⟩

theorem Field.failsFirst_readGiven {before : List Field} {field : Field} {whole d : Datum}
    {issue : Issue} (after : List Field) (reads : ∀ f ∈ before, ∃ entry, f.readFrom whole = .ok entry)
    (found : whole.get? field.name = some d) (fails : FailsFirst issue (field.read d)) :
    FailsFirst (issue.inside (.name field.name)) (readGiven (before ++ field :: after) whole) := by
  have first : FailsFirst (issue.inside (.name field.name)) (field.readFrom whole) := by
    rw [readFrom, found]
    exact (fails.map _).inside _
  exact (FailsFirst.gather reads first).map _

/-! ### What issues are about -/

theorem reports_readText (d : Datum) : Reports (Issue.IsIn d) (readText d) := by
  cases d with
  | text s => exact .ok s
  | _ => exact reports_refuse _ _

theorem reports_readChoice (options : List String) (ofWord? : String → Option α) (d : Datum) :
    Reports (Issue.IsIn d) (readChoice options ofWord? d) := by
  unfold readChoice
  split
  · split
    · exact .ok _
    · exact reports_refuse _ _
  · exact reports_refuse _ _

theorem reports_readStrictFlag (d : Datum) : Reports (Issue.IsIn d) (readStrictFlag d) := by
  cases d with
  | flag b => exact .ok b
  | _ => exact reports_refuse _ _

theorem reports_readFlag (d : Datum) : Reports (Issue.IsIn d) (readFlag d) := by
  unfold readFlag
  repeat' split
  all_goals first | exact .ok _ | exact reports_refuse _ _

theorem reports_readInteger (d : Datum) : Reports (Issue.IsIn d) (readInteger d) := by
  unfold readInteger
  repeat' split
  all_goals first | exact .ok _ | exact reports_refuse _ _

theorem reports_readMoment (d : Datum) : Reports (Issue.IsIn d) (readMoment d) := by
  unfold readMoment readMomentText ofMoment
  repeat' split
  all_goals first | exact .ok _ | exact reports_refuse _ _

theorem reports_readList {read : Datum → Reading α}
    (each : ∀ d, Reports (Issue.IsIn d) (read d)) (d : Datum) :
    Reports (Issue.IsIn d) (readList read d) := by
  cases d with
  | list items =>
    refine .gather fun pair mem => ?_
    exact ((each pair.1).deeper (.item (List.fst_mem_of_mem_zipIdx mem))).inside _
  | _ => exact reports_refuse _ _

theorem mem_of_entryUnder? {key other used : String} {entries : List (String × Datum)} {d : Datum}
    (found : entryUnder? (.object entries) key other = some (used, d)) : (used, d) ∈ entries := by
  rcases Option.or_eq_some_iff.1 found with found | ⟨_, found⟩
  all_goals
    obtain ⟨_, held, same⟩ := Option.map_eq_some_iff.1 found
    cases same
    exact Entries.mem_of_lookup held

theorem reports_readEntry {read : Datum → Reading α}
    (each : ∀ d, Reports (Issue.IsIn d) (read d)) (key other : String)
    (entries : List (String × Datum)) :
    Reports (Issue.IsIn (.object entries)) (readEntry key other read (.object entries)) := by
  unfold readEntry
  split
  · rename_i used d found
    exact ((each d).deeper (.entry (mem_of_entryUnder? found))).inside _
  · exact (reports_refuse _ _).inside _

theorem reports_readFilter (d : Datum) : Reports (Issue.IsIn d) (readFilter d) := by
  cases d with
  | filter v => exact .ok v
  | object entries =>
    have name := reports_readEntry reports_readText "name" "name" entries
    have operator := reports_readEntry (reports_readChoice
      (VariableOperator.all.map (·.symbol)) VariableOperator.ofSymbol?) "operator" "operator" entries
    have value := reports_readEntry reports_readText "value" "value" entries
    exact FailsOnly.map _ (name.both (operator.both value))
  | _ => exact reports_refuse _ _

theorem reports_readCriterion (d : Datum) : Reports (Issue.IsIn d) (readCriterion d) := by
  cases d with
  | criterion c => exact .ok c
  | object entries =>
    have field := reports_readEntry reports_readText SortCriterion.byKey "field" entries
    refine FailsOnly.map _ (field.both ?_)
    split
    · rename_i used d found
      exact ((reports_readChoice _ _ d).deeper (.entry (mem_of_entryUnder? found))).inside _
    · exact .ok _
  | _ => exact reports_refuse _ _

theorem FieldType.reports_read (type : FieldType) (d : Datum) :
    Reports (Issue.IsIn d) (type.read d) := by
  cases type with
  | text => exact FailsOnly.map _ (reports_readText d)
  | strictFlag => exact FailsOnly.map _ (reports_readStrictFlag d)
  | flag => exact FailsOnly.map _ (reports_readFlag d)
  | integer => exact FailsOnly.map _ (reports_readInteger d)
  | moment => exact FailsOnly.map _ (reports_readMoment d)
  | texts => exact FailsOnly.map _ (reports_readList reports_readText d)
  | filters => exact FailsOnly.map _ (reports_readList reports_readFilter d)

theorem Field.reports_read (field : Field) (d : Datum) :
    Reports (Issue.IsIn d) (field.read d) := by
  unfold Field.read
  split
  · exact .ok _
  · exact field.type.reports_read d

/-! ### Fields -/

theorem Field.reports_readGiven {names : String → Prop} {fields : List Field} (whole : Datum)
    (known : ∀ field ∈ fields, names field.name) :
    Reports (Issue.LiesUnder names) (readGiven fields whole) := by
  have read : Reports (Issue.LiesUnder names) (gather (readFrom whole) fields) :=
    .gather fun field mem => reports_inside (known field mem) _
  exact FailsOnly.map _ read

end QueryBinding
