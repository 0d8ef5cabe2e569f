import QueryBinding.Proofs.Catalog.Facet
import QueryBinding.Proofs.Run
/-!
Making query types. The parameters of a type are checked against its fields once, when the type is
made, and the first one in the order of the table that sets no field is told. The fields of a
declared type are those that the declaration declares and those of its base, and every one of them
is null until it is set.
-/
namespace QueryBinding

theorem declares_eq_true {fields : List Field} {name : String} :
    declares fields name = true ↔ name ≠ sortingField ∧ name ∈ fields.map (·.name) := by
  simp only [declares, Bool.and_eq_true, bne_iff_ne, List.any_eq_true, beq_iff_eq, List.mem_map]

/-! ### The check -/

namespace QueryType

variable {name : String} {parameters : ParameterTable} {fields : List Field}
  {sortFields : SortWhitelist} {factory : Factory} {filters : List FilterRule}

theorem of_eq_ok {type : QueryType}
    (made : of name parameters fields sortFields factory filters = .ok type) :
    type.parameters = parameters ∧ type.fields = fields := by
  unfold of at made
  split at made
  · cases made
  · cases made
    exact ⟨rfl, rfl⟩

theorem find?_undeclared {ps : List Parameter} {p : Parameter} :
    (ps.find? fun p => !declares fields p.field) = some p ↔
      declares fields p.field = false ∧ ∃ before after, ps = before ++ p :: after ∧
        ∀ b ∈ before, declares fields b.field = true := by
  simp only [List.find?_eq_some_iff_append, Bool.not_eq_true', Bool.not_not]

theorem of_eq_error {failure : Failure} :
    of name parameters fields sortFields factory filters = .error failure ↔
      ∃ before p after, parameters.toList = before ++ p :: after ∧
        (∀ b ∈ before, declares fields b.field = true) ∧ declares fields p.field = false ∧
        failure = .undeclaredField name p.name p.field := by
  unfold of
  split
  · rename_i p found
    constructor
    · intro fails
      cases fails
      obtain ⟨unknown, before, after, cut, known⟩ := find?_undeclared.1 found
      exact ⟨before, p, after, cut, known, unknown, rfl⟩
    · rintro ⟨before, q, after, cut, known, unknown, rfl⟩
      cases found.symm.trans (find?_undeclared.2 ⟨unknown, before, after, cut, known⟩)
      rfl
  · rename_i none
    constructor
    · intro fails
      cases fails
    · rintro ⟨before, p, after, cut, known, unknown, -⟩
      cases none.symm.trans (find?_undeclared.2 ⟨unknown, before, after, cut, known⟩)

theorem exists_of_iff :
    (∃ type, of name parameters fields sortFields factory filters = .ok type) ↔
      ∀ p ∈ parameters.toList, declares fields p.field = true := by
  constructor
  · rintro ⟨type, made⟩
    obtain ⟨rfl, rfl⟩ := of_eq_ok made
    exact type.declares_field
  · intro known
    cases made : of name parameters fields sortFields factory filters with
    | ok type => exact ⟨type, rfl⟩
    | error failure =>
      obtain ⟨before, p, after, cut, -, unknown, -⟩ := of_eq_error.1 made
      have mem : p ∈ parameters.toList := cut ▸ List.mem_append_right _ List.mem_cons_self
      rw [known p mem] at unknown
      cases unknown

end QueryType

/-! ### Declarations -/

namespace Declaration

variable {d : Declaration} {fields : List Field} {field : Field} {failure : Failure}

theorem mem_names_addField {name : String} :
    name ∈ (addField fields field).map (·.name) ↔
      name = field.name ∨ name ∈ fields.map (·.name) := by
  unfold addField
  split
  · rename_i taken
    obtain ⟨old, mem, same⟩ := List.any_eq_true.1 taken
    have isName : field.name ∈ fields.map (·.name) :=
      List.mem_map.2 ⟨old, mem, beq_iff_eq.1 same⟩
    have names : (fields.map fun f => if f.name = field.name then field else f).map (·.name) =
        fields.map (·.name) := by
      rw [List.map_map]
      refine List.map_congr_left fun f _ => ?_
      by_cases replaced : f.name = field.name <;> simp [replaced]
    rw [names]
    constructor
    · exact .inr
    · rintro (rfl | mem)
      · exact isName
      · exact mem
  · split
    · rw [List.map_cons, List.mem_cons]
    · rw [List.map_append, List.mem_append, or_comm, List.map_singleton, List.mem_singleton]

theorem forall_mem_addField {p : Field → Prop} (others : ∀ f ∈ fields, p f) (own : p field) :
    ∀ f ∈ addField fields field, p f := by
  unfold addField
  split
  · intro f mem
    obtain ⟨old, known, rfl⟩ := List.mem_map.1 mem
    split
    · exact own
    · exact others old known
  · split
    · exact List.forall_mem_cons.2 ⟨own, others⟩
    · exact List.forall_mem_append.2 ⟨others, List.forall_mem_singleton.2 own⟩

theorem forall_mem_foldl_addField {p : Field → Prop} {own : List Field}
    (start : ∀ f ∈ fields, p f) (others : ∀ f ∈ own, p f) :
    ∀ f ∈ own.foldl addField fields, p f := by
  induction own generalizing fields with
  | nil => exact start
  | cons first own ih =>
    obtain ⟨head, rest⟩ := List.forall_mem_cons.1 others
    exact ih (forall_mem_addField start head) rest

/-- The fields that a declaration declares. -/
def ownFields (d : Declaration) : List Field :=
  (d.fields.filter (isFieldName ·.1)).map fun (name, type) => { name, type }

/-- The fields of the type that a declaration describes. -/
def allFields (d : Declaration) : List Field :=
  d.ownFields.foldl addField ((d.base.map (·.fields)).getD [])

/-- A field other than the sorting that is declared or inherited. -/
def HasField (d : Declaration) (name : String) : Prop :=
  name ≠ sortingField ∧
    (name ∈ d.ownFields.map (·.name) ∨ ∃ base ∈ d.base, name ∈ base.fields.map (·.name))

theorem mem_names_foldl_addField {name : String} {own : List Field} :
    name ∈ (own.foldl addField fields).map (·.name) ↔
      name ∈ own.map (·.name) ∨ name ∈ fields.map (·.name) := by
  induction own generalizing fields with
  | nil => simp
  | cons first own ih =>
    rw [List.foldl_cons, ih, mem_names_addField, List.map_cons, List.mem_cons]
    constructor
    · rintro (own | rfl | old)
      · exact .inl (.inr own)
      · exact .inl (.inl rfl)
      · exact .inr old
    · rintro ((rfl | own) | old)
      · exact .inr (.inl rfl)
      · exact .inl own
      · exact .inr (.inr old)

theorem declares_allFields {name : String} :
    declares d.allFields name = true ↔ d.HasField name := by
  rw [declares_eq_true, allFields, mem_names_foldl_addField, HasField]
  cases d.base <;> simp

theorem toQueryType_eq (d : Declaration) :
    d.toQueryType = (do
      let parameters ← d.parameterTable
      d.checkNames
      QueryType.of d.name parameters d.allFields d.whitelist
        ((d.base.map (·.factory)).getD customFactory)
        (adaptRules ((d.base.map (·.filters)).getD []) d.allFields ++
          d.ownFields.map fun field => .named field.name)) := rfl

theorem toQueryType_of_no_table (fails : d.parameterTable = .error failure) :
    d.toQueryType = .error failure := by
  rw [toQueryType_eq, fails]
  rfl

/-- The names of a declaration are ones that a type and its fields can have. -/
def Nameable (d : Declaration) : Prop :=
  '\x00' ∉ d.name.toList ∧ reservedField ∉ d.fields.map (·.1)

theorem checkNames_eq_ok : d.checkNames = .ok () ↔ d.Nameable := by
  have reserved : d.fields.any (·.1 == reservedField) = true ↔
      reservedField ∈ d.fields.map (·.1) := by
    simp only [List.any_eq_true, beq_iff_eq, List.mem_map]
  rw [checkNames, Nameable, ← reserved, ← List.contains_iff_mem]
  cases d.fields.any (·.1 == reservedField) <;> cases d.name.toList.contains '\x00' <;> simp

section

variable {table : ParameterTable} (built : d.parameterTable = .ok table)

include built

theorem toQueryType_of_names (fails : d.checkNames = .error failure) :
    d.toQueryType = .error failure := by
  rw [toQueryType_eq, built, fails]
  rfl

variable (named : d.Nameable)

include named

theorem toQueryType_eq_of : ∃ factory filters,
    d.toQueryType = QueryType.of d.name table d.allFields d.whitelist factory filters :=
  ⟨_, _, by rw [toQueryType_eq, built, checkNames_eq_ok.2 named]; rfl⟩

theorem exists_toQueryType_iff :
    (∃ type, d.toQueryType = .ok type) ↔ ∀ p ∈ table.toList, d.HasField p.field := by
  obtain ⟨factory, filters, same⟩ := toQueryType_eq_of built named
  simp only [same, QueryType.exists_of_iff, declares_allFields]

theorem toQueryType_eq_error :
    d.toQueryType = .error failure ↔ ∃ before p after, table.toList = before ++ p :: after ∧
      (∀ b ∈ before, d.HasField b.field) ∧ ¬d.HasField p.field ∧
      failure = .undeclaredField d.name p.name p.field := by
  obtain ⟨factory, filters, same⟩ := toQueryType_eq_of built named
  simp only [same, QueryType.of_eq_error, ← declares_allFields, Bool.not_eq_true]

end

theorem unset_allFields
    (inherited : ∀ base ∈ d.base, ∀ field ∈ base.fields, field.default = some .null) :
    ∀ field ∈ d.allFields, field.default = some .null := by
  have own : ∀ field ∈ d.ownFields, field.default = some .null := by
    intro field mem
    obtain ⟨_, _, rfl⟩ := List.mem_map.1 mem
    rfl
  have start : ∀ field ∈ (d.base.map (·.fields)).getD [], field.default = some .null := by
    cases base : d.base with
    | none => nofun
    | some base' => exact inherited base' base
  exact forall_mem_foldl_addField start own

end Declaration

/-- The types of the catalogue, and those with the fields of a declaration on top of such a type or
of none, whatever table they have. -/
inductive QueryType.Declared : QueryType → Prop
  | catalogue (t : Catalog) : Declared t.queryType
  | declaration {d : Declaration} {table : ParameterTable} {sortFields : SortWhitelist}
      {factory : Factory} {filters : List FilterRule} {type : QueryType}
      (based : ∀ base ∈ d.base, Declared base)
      (made : of d.name table d.allFields sortFields factory filters = .ok type) : Declared type

theorem QueryType.Declared.of_toQueryType {d : Declaration} {type : QueryType}
    (based : ∀ base ∈ d.base, Declared base) (made : d.toQueryType = .ok type) :
    type.Declared := by
  simp only [Declaration.toQueryType_eq, bind_eq_ok] at made
  obtain ⟨table, -, -, -, made⟩ := made
  exact .declaration based made

theorem QueryType.Declared.unset {type : QueryType} (declared : type.Declared) :
    ∀ field ∈ type.fields, field.default = some .null := by
  induction declared with
  | catalogue t =>
    intro field mem
    rw [t.hasFacets.fields] at mem
    obtain ⟨f, _, rfl⟩ := List.mem_map.1 mem
    rfl
  | declaration _ made ih =>
    rw [(of_eq_ok made).2]
    exact Declaration.unset_allFields ih

end QueryBinding
