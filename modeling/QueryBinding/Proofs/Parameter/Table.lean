import Mathlib.Data.List.Induction
import Mathlib.Data.List.Nodup
import QueryBinding.Proofs.Parameter.Outcome
/-!
What a table of parameters comes to. Building one succeeds if no name and no field occurs twice,
and otherwise tells the first parameter that clashes with those before it. A table is known by its
parameters alone: it does not matter in how many steps it was built, and whichever way it is asked,
it shows the parameters that were declared, in their order.
-/
namespace QueryBinding

namespace Parameter

/-- No name and no field occurs twice. -/
structure Distinct (ps : List Parameter) : Prop where
  names : (ps.map (·.name)).Nodup
  fields : (ps.map (·.field)).Nodup

theorem Distinct.of_append {ps more : List Parameter} (h : Distinct (ps ++ more)) :
    Distinct ps where
  names := (List.nodup_append.1 (List.map_append ▸ h.names)).1
  fields := (List.nodup_append.1 (List.map_append ▸ h.fields)).1

/-- What is wrong with a parameter that comes after others: it has the name of one of them or, its
name being new, the field of one of them. -/
inductive Clashes (before : List Parameter) (p : Parameter) : Failure → Prop
  | name (taken : p.name ∈ before.map (·.name)) : Clashes before p (.duplicateParameter p.name)
  | field (fresh : p.name ∉ before.map (·.name)) (taken : p.field ∈ before.map (·.field)) :
    Clashes before p (.duplicateField p.field)

theorem Clashes.kind_eq {before : List Parameter} {p : Parameter} {failure : Failure}
    (clashes : p.Clashes before failure) : failure.kind = .value := by
  cases clashes <;> rfl

theorem Clashes.not_distinct {before after : List Parameter} {p : Parameter} {failure : Failure}
    (clashes : p.Clashes before failure) : ¬Distinct (before ++ p :: after) := by
  rintro ⟨names, fields⟩
  rw [List.map_append, List.nodup_append] at names fields
  cases clashes with
  | name taken => exact names.2.2 _ taken _ List.mem_cons_self rfl
  | field fresh taken => exact fields.2.2 _ taken _ List.mem_cons_self rfl

end Parameter

namespace ParameterTable

variable {table larger : ParameterTable} {ps more : List Parameter} {p : Parameter}
  {failure : Failure}

theorem ext_toList {other : ParameterTable} (same : table.toList = other.toList) :
    table = other := by
  cases table
  cases other
  simp only [mk.injEq]
  exact same

theorem distinct (table : ParameterTable) : Parameter.Distinct table.toList :=
  ⟨table.nodup_names, table.nodup_fields⟩

/-! ### Building -/

theorem add_eq_error : table.add p = .error failure ↔ p.Clashes table.toList failure := by
  rw [add]
  split
  · rename_i taken
    constructor
    · intro fails
      cases fails
      exact .name taken
    · rintro (_ | ⟨fresh, _⟩)
      · rfl
      · exact absurd taken fresh
  · rename_i fresh
    split
    · rename_i taken
      constructor
      · intro fails
        cases fails
        exact .field fresh taken
      · rintro (known | _)
        · exact absurd known fresh
        · rfl
    · rename_i apart
      constructor
      · intro fails
        cases fails
      · rintro (known | ⟨_, taken⟩)
        · exact absurd known fresh
        · exact absurd taken apart

theorem add_eq_ok : table.add p = .ok larger ↔ larger.toList = table.toList ++ [p] := by
  constructor
  · exact toList_add
  · intro appended
    cases added : table.add p with
    | ok next => rw [ext_toList ((toList_add added).trans appended.symm)]
    | error failure =>
      have clashes := add_eq_error.1 added
      exact absurd (appended ▸ larger.distinct) clashes.not_distinct

theorem extend_append (table : ParameterTable) (ps more : List Parameter) :
    table.extend (ps ++ more) = (table.extend ps >>= (·.extend more)) :=
  List.foldlM_append

theorem extend_eq_ok : table.extend ps = .ok larger ↔ larger.toList = table.toList ++ ps := by
  constructor
  · exact toList_extend
  · intro appended
    induction ps generalizing table with
    | nil => rw [ext_toList (appended.trans (List.append_nil _))]; rfl
    | cons p ps ih =>
      rw [← List.singleton_append, ← List.append_assoc] at appended
      obtain ⟨names, fields⟩ := (appended ▸ larger.distinct).of_append
      let next : ParameterTable := ⟨table.toList ++ [p], names, fields⟩
      have added : table.add p = .ok next := add_eq_ok.2 rfl
      have rest : next.extend ps = .ok larger := ih appended
      rw [← List.singleton_append, extend_append, extend, List.foldlM_cons, added]
      exact rest

theorem ofList_eq_ok : ofList ps = .ok table ↔ table.toList = ps :=
  extend_eq_ok

theorem extend_eq_ofList (table : ParameterTable) (ps : List Parameter) :
    table.extend ps = ofList (table.toList ++ ps) := by
  have built : ofList table.toList = .ok table := ofList_eq_ok.2 rfl
  rw [ofList, extend_append, ← ofList, built]
  rfl

/-- What building a table of parameters comes to. -/
inductive Construction : List Parameter → Except Failure ParameterTable → Prop
  | built (table : ParameterTable) : Construction table.toList (.ok table)
  | refused {before after : List Parameter} {p : Parameter} {failure : Failure}
      (distinct : Parameter.Distinct before) (clashes : p.Clashes before failure) :
    Construction (before ++ p :: after) (.error failure)

theorem Construction.ofList_eq {result : Except Failure ParameterTable}
    (h : Construction ps result) : ofList ps = result := by
  cases h with
  | built => exact ofList_eq_ok.2 rfl
  | @refused before after p failure distinct clashes =>
    let table : ParameterTable := ⟨before, distinct.names, distinct.fields⟩
    have built : ofList before = .ok table := ofList_eq_ok.2 rfl
    have fails : table.add p = .error failure := add_eq_error.2 clashes
    have rest : table.extend (p :: after) = .error failure := by
      rw [extend, List.foldlM_cons, fails]
      rfl
    rw [ofList, extend_append, ← ofList, built]
    exact rest

theorem exists_construction (ps : List Parameter) : ∃ result, Construction ps result := by
  induction ps using List.reverseRecOn with
  | nil => exact ⟨.ok empty, .built empty⟩
  | append_singleton ps p ih =>
    obtain ⟨result, construction⟩ := ih
    cases construction with
    | built table =>
      cases added : table.add p with
      | ok next => exact ⟨.ok next, toList_add added ▸ .built next⟩
      | error failure => exact ⟨_, .refused table.distinct (add_eq_error.1 added)⟩
    | refused distinct clashes =>
      rw [List.append_assoc, List.cons_append]
      exact ⟨_, .refused distinct clashes⟩

theorem ofList_eq_iff {result : Except Failure ParameterTable} :
    ofList ps = result ↔ Construction ps result := by
  constructor
  · rintro rfl
    obtain ⟨result, construction⟩ := exists_construction ps
    exact construction.ofList_eq ▸ construction
  · exact Construction.ofList_eq

theorem exists_ofList_iff : (∃ table, ofList ps = .ok table) ↔ Parameter.Distinct ps := by
  constructor
  · rintro ⟨table, built⟩
    exact ofList_eq_ok.1 built ▸ table.distinct
  · rintro ⟨names, fields⟩
    exact ⟨⟨ps, names, fields⟩, ofList_eq_ok.2 rfl⟩

theorem ofList_eq_error :
    ofList ps = .error failure ↔ ∃ before p after, ps = before ++ p :: after ∧
      Parameter.Distinct before ∧ p.Clashes before failure := by
  rw [ofList_eq_iff]
  constructor
  · rintro (_ | ⟨distinct, clashes⟩)
    exact ⟨_, _, _, rfl, distinct, clashes⟩
  · rintro ⟨before, p, after, rfl, distinct, clashes⟩
    exact .refused distinct clashes

/-- The tables that building one and extending it any number of times leads to, with all that was
declared on the way. -/
inductive Declares : List Parameter → ParameterTable → Prop
  | built {ps : List Parameter} {table : ParameterTable} (built : ofList ps = .ok table) :
    Declares ps table
  | extended {ps more : List Parameter} {table larger : ParameterTable}
      (declares : Declares ps table) (grown : table.extend more = .ok larger) :
    Declares (ps ++ more) larger

theorem Declares.toList_eq (h : Declares ps table) : table.toList = ps := by
  induction h with
  | built built => exact ofList_eq_ok.1 built
  | extended _ grown ih => rw [toList_extend grown, ih]

/-! ### Asking -/

theorem find?_eq_none {name : String} :
    table.find? name = none ↔ ∀ p ∈ table.toList, p.name ≠ name := by
  simp only [find?, List.find?_eq_none, beq_iff_eq, ne_eq]

theorem mem_of_find? {name : String} (found : table.find? name = some p) :
    p ∈ table.toList ∧ p.name = name := by
  rw [find?] at found
  have same := List.find?_some found
  exact ⟨List.mem_of_find?_eq_some found, beq_iff_eq.1 same⟩

theorem find?_eq_some {name : String} :
    table.find? name = some p ↔ p ∈ table.toList ∧ p.name = name := by
  constructor
  · exact mem_of_find?
  · rintro ⟨mem, rfl⟩
    cases found : table.find? p.name with
    | none => exact absurd rfl (find?_eq_none.1 found p mem)
    | some q =>
      obtain ⟨mem', same⟩ := mem_of_find? found
      rw [List.inj_on_of_nodup_map table.nodup_names mem' mem same]

theorem lookup_byField {field : String} :
    table.byField.lookup field = some p ↔ p ∈ table.toList ∧ p.field = field := by
  have listed : (field, p) ∈ table.byField ↔ p ∈ table.toList ∧ p.field = field := by
    rw [byField, List.mem_map]
    constructor
    · rintro ⟨q, mem, same⟩
      cases same
      exact ⟨mem, rfl⟩
    · rintro ⟨mem, rfl⟩
      exact ⟨p, mem, rfl⟩
  rw [← listed]
  exact ⟨Entries.mem_of_lookup, Entries.lookup_of_mem table.nodup_keys_byField⟩

/-- Whichever way a table is asked, it shows the same parameters in the same order. -/
structure Shows (table : ParameterTable) (ps : List Parameter) : Prop where
  parameters : table.toList = ps
  names : table.names = ps.map (·.name)
  fields : table.fields = ps.map (·.field)
  size : table.size = ps.length
  get_ok : ∀ name p, table.get name = .ok p ↔ p ∈ ps ∧ p.name = name
  get_error : ∀ name failure, table.get name = .error failure ↔
    (∀ p ∈ ps, p.name ≠ name) ∧ failure = .unknownKey name
  contains : ∀ name, table.contains name = true ↔ ∃ p ∈ ps, p.name = name
  byField_fields : Entries.keys table.byField = ps.map (·.field)
  byField_lookup : ∀ field p, table.byField.lookup field = some p ↔ p ∈ ps ∧ p.field = field

theorem shows (table : ParameterTable) : table.Shows table.toList where
  parameters := rfl
  names := rfl
  fields := rfl
  size := rfl
  get_ok name p := by
    rw [← find?_eq_some, get]
    cases table.find? name <;> simp
  get_error name failure := by
    rw [← find?_eq_none, get]
    cases table.find? name <;> simp [eq_comm]
  contains name := by
    rw [contains, Option.isSome_iff_exists]
    simp only [find?_eq_some]
  byField_fields := keys_byField table
  byField_lookup _ _ := lookup_byField

/-- A table can be built exactly from distinct parameters, and the first one that clashes is told;
however it was extended, it shows all that was declared, and extending it twice is extending it once
by both. -/
theorem shows_declared_parameters :
    (∀ ps, (∃ table, ofList ps = .ok table) ↔ Parameter.Distinct ps) ∧
    (∀ ps failure, ofList ps = .error failure ↔ ∃ before p after, ps = before ++ p :: after ∧
      Parameter.Distinct before ∧ p.Clashes before failure) ∧
    (∀ ps failure, ofList ps = .error failure → failure.kind = .value) ∧
    (∀ ps table, Declares ps table → table.Shows ps) ∧
    (∀ table ps, extend table ps = ofList (table.toList ++ ps)) ∧
    ∀ table ps more, (extend table ps >>= (·.extend more)) = table.extend (ps ++ more) := by
  refine ⟨fun _ => exists_ofList_iff, fun _ _ => ofList_eq_error, fun ps failure fails => ?_,
    fun ps table declares => ?_, extend_eq_ofList, fun table ps more => ?_⟩
  · obtain ⟨_, _, _, -, -, clashes⟩ := ofList_eq_error.1 fails
    exact clashes.kind_eq
  · exact declares.toList_eq ▸ table.shows
  · exact (extend_append table ps more).symm

/-- A table that was extended twice. A further parameter is refused for its name, although its field
is taken as well, and another one only for its field. -/
theorem shows_declared_parameters_assignee :
    ∃ (table larger largest : ParameterTable) (owner assignee renamed repeated : Parameter),
      owner = { name := "owner", field := "owner" } ∧
      assignee = { name := "assignee", field := "assignee_id" } ∧
      renamed = { name := "assigneeId", field := "assignee_id" } ∧
      repeated = { name := "assignee", field := "owner" } ∧
      ofList Task.declaration.parameters = .ok table ∧
      table.extend [owner] = .ok larger ∧ larger.extend [assignee] = .ok largest ∧
      largest.names = ["name", "assigned", "priority", "candidateGroups", "dueBefore", "owner",
        "assignee"] ∧
      largest.get "assignee" = .ok assignee ∧
      largest.byField.lookup "assignee_id" = some assignee ∧
      largest.extend [renamed, owner] = .error (.duplicateField "assignee_id") ∧
      (table.extend [owner, assignee] >>= (·.extend [repeated, renamed])) =
        .error (.duplicateParameter "assignee") ∧
      (Failure.duplicateParameter "assignee").kind = .value := by
  let owner : Parameter := { name := "owner", field := "owner" }
  let assignee : Parameter := { name := "assignee", field := "assignee_id" }
  let renamed : Parameter := { name := "assigneeId", field := "assignee_id" }
  let repeated : Parameter := { name := "assignee", field := "owner" }
  let declared : List Parameter := Task.declaration.parameters ++ [owner] ++ [assignee]
  obtain ⟨builds, refuses, value, declares, extends_as, in_one⟩ := shows_declared_parameters
  obtain ⟨table, built⟩ :=
    (builds Task.declaration.parameters).2 ⟨by decide +kernel, by decide +kernel⟩
  obtain ⟨larger, grown⟩ : ∃ larger, table.extend [owner] = .ok larger := by
    rw [extends_as, ofList_eq_ok.1 built]
    exact (builds _).2 ⟨by decide +kernel, by decide +kernel⟩
  obtain ⟨largest, grown_again⟩ : ∃ largest, larger.extend [assignee] = .ok largest := by
    rw [extends_as, toList_extend grown, ofList_eq_ok.1 built]
    exact (builds _).2 ⟨by decide +kernel, by decide +kernel⟩
  have shown : largest.Shows declared :=
    declares _ _ (.extended (.extended (.built built) grown) grown_again)
  have distinct : Parameter.Distinct declared := ⟨by decide +kernel, by decide +kernel⟩
  have told : ofList (declared ++ [repeated, renamed]) = .error (.duplicateParameter "assignee") :=
    (refuses _ _).2 ⟨declared, repeated, [renamed], rfl, distinct, .name (by decide +kernel)⟩
  refine ⟨table, larger, largest, owner, assignee, renamed, repeated, rfl, rfl, rfl, rfl, built,
    grown, grown_again, shown.names, ?_, ?_, ?_, ?_, value _ _ told⟩
  · exact (shown.get_ok _ _).2 ⟨List.mem_append_right _ (List.mem_singleton.2 rfl), rfl⟩
  · exact (shown.byField_lookup _ _).2 ⟨List.mem_append_right _ (List.mem_singleton.2 rfl), rfl⟩
  · rw [extends_as, shown.parameters]
    exact (refuses _ _).2
      ⟨declared, renamed, [owner], rfl, distinct, .field (by decide +kernel) (by decide +kernel)⟩
  · rw [in_one, extends_as, ofList_eq_ok.1 built, ← told]
    rfl

end ParameterTable
end QueryBinding
