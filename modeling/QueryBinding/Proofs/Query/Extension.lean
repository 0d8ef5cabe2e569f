import QueryBinding.Catalog.Task
import QueryBinding.Proofs.Parameter.Outcome
import QueryBinding.Proofs.Query.Fitting
import QueryBinding.Proofs.Query.Sorting
/-!
Extensions of query types. An extension has further parameters, fields, sort fields and filters
besides those of its base. A request that says nothing about them comes to the same with both: the
parameters bind the same values, the further fields stay unset, and what an unset field stands for
is no call. Only a further field that is named like an operation of queries gets in the way.
-/
namespace QueryBinding

open Reading

/-! ### Larger tables -/

/-- Parameters without texts make no difference. -/
theorem Parameter.bindAll_append_of_silent {more : List Parameter} {raw : RawParameters}
    (ps : List Parameter) (silent : ∀ p ∈ more, raw.values p.name = []) :
    bindAll (ps ++ more) raw = bindAll ps raw := by
  have none : more.filter (isSupplied raw) = [] :=
    List.filter_eq_nil_iff.2 fun p mem => by simp [isSupplied, silent p mem]
  rw [bindAll_eq_mapM, bindAll_eq_mapM, List.filter_append, none, List.append_nil]

theorem SortWhitelist.lookup_extend {whitelist : SortWhitelist} {pairs : List (String × String)}
    (fresh : ∀ pair ∈ pairs, pair.1 ∉ whitelist.names) {field call : String}
    (found : whitelist.orderings.lookup field = some call) :
    (whitelist.extend pairs).orderings.lookup field = some call := by
  have old : field ∈ whitelist.names := List.mem_map.2 ⟨_, Entries.mem_of_lookup found, rfl⟩
  have absent : pairs.reverse.lookup field = none := by
    refine List.lookup_eq_none_iff.2 fun pair mem => bne_iff_ne.2 ?_
    rintro rfl
    exact fresh pair (List.mem_reverse.1 mem) old
  rw [extend, Entries.lookup_putAll, absent, Option.none_or, found]

/-! ### Extensions -/

/-- What an extension adds to a query type. -/
structure Addition where
  parameters : List Parameter := []
  fields : List Field := []
  filters : List FilterRule := []

/-- The type is the base with an addition: its parameters come after those of the base, it orders by
every field of the base as the base does, and its own filters, which run last, are about its own
fields. -/
structure QueryType.Extends (type base : QueryType) (added : Addition) : Prop where
  parameters : base.parameters.extend added.parameters = .ok type.parameters
  fields : type.fields = base.fields ++ added.fields
  orderings : ∀ field call, base.sortFields.orderings.lookup field = some call →
    type.sortFields.orderings.lookup field = some call
  factory : type.factory = base.factory
  filters : type.filters = base.filters ++ added.filters
  fresh : ∀ field ∈ added.fields, field.name ∉ sortingField :: base.fields.map (·.name)
  unset : ∀ field ∈ added.fields, field.default = some .null
  own : ∀ rule ∈ added.filters, rule.field ∈ added.fields.map (·.name)

/-- The same values and criteria as a query of another type. -/
def Query.retyped (q : Query) (type : QueryType) : Query := { q with type }

namespace QueryType.Extends

variable {type base : QueryType} {added : Addition} (h : type.Extends base added)

include h

theorem hides_eq {name : String} (other : ∀ field ∈ added.fields, field.name ≠ name) :
    type.hides name = base.hides name := by
  have none : added.fields.any (·.name == name) = false :=
    List.any_eq_false.2 fun field mem => by simpa using other field mem
  rw [hides, h.fields, List.any_append, none, Bool.or_false, hides]

theorem replacesSorting_eq : type.replacesSorting = base.replacesSorting :=
  h.hides_eq fun field mem same => h.fresh field mem (same ▸ List.mem_cons_self)

theorem contains_of_contains {field : String} (listed : base.sortFields.contains field = true) :
    type.sortFields.contains field = true := by
  obtain ⟨call, found⟩ := Option.isSome_iff_exists.1 listed
  exact Option.isSome_iff_exists.2 ⟨call, h.orderings field call found⟩

/-! ### Requests -/

theorem bind_eq {raw : RawParameters} (silent : ∀ p ∈ added.parameters, raw.values p.name = []) :
    type.parameters.bind raw = base.parameters.bind raw := by
  rw [ParameterTable.bind, ParameterTable.toList_extend h.parameters,
    Parameter.bindAll_append_of_silent _ silent, ParameterTable.bind]

theorem criteriaOf_eq {fields : List String} (orders : List String)
    (listed : ∀ field ∈ fields, base.sortFields.contains field = true) :
    type.criteriaOf fields orders = base.criteriaOf fields orders := by
  have larger : ∀ field ∈ fields, type.sortFields.contains field = true :=
    fun field mem => h.contains_of_contains (listed field mem)
  rw [criteriaOf, criteriaOf, checkSortFields_eq_ok.2 listed, checkSortFields_eq_ok.2 larger]

/-- Entries of the base are read alike. -/
theorem read_eq {entries : List (String × Datum)}
    (known : ∀ entry ∈ entries, entry.1 ∈ sortingField :: base.fields.map (·.name)) :
    type.read entries = (base.read entries).map (·.retyped type) := by
  have sorting : type.readSorting entries = base.readSorting entries := by
    rw [readSorting, readSorting, h.replacesSorting_eq]
  have given : Field.readGiven type.fields (.object entries) =
      Field.readGiven base.fields (.object entries) := by
    rw [h.fields]
    refine Field.readGiven_append _ (fun field mem => ?_) fun field mem => ?_
    · rw [h.unset field mem, Option.isSome_some]
    · exact Entries.lookup_eq_none known (h.fresh field mem)
  have larger : ∀ entry ∈ entries, entry.1 ∈ sortingField :: type.fields.map (·.name) := by
    intro entry mem
    rw [h.fields, List.map_append, ← List.cons_append]
    exact List.mem_append_left _ (known entry mem)
  rw [read, read, sorting, given, readOthers_eq_ok known, readOthers_eq_ok larger]
  cases base.readSorting entries <;> cases Field.readGiven base.fields (.object entries) <;> rfl

end QueryType.Extends

/-- The criteria of a query that was read from request parameters are those of the request. -/
theorem QueryType.criteria_of_read {type : QueryType} {q : Query} {values : List (String × Datum)}
    {criteria found : List SortCriterion} (others : ∀ entry ∈ values, entry.1 ≠ sortingField)
    (reads : type.read (values ++ sortingEntry (criteria.map .criterion)) = .ok q)
    (ordered : q.ordering = .ok found) : found = criteria := by
  obtain ⟨rfl, sorted, gives⟩ := read_eq_ok reads
  have visible := replacesSorting_of_ordering (lookup_sortingField others) gives ordered
  have self : ∀ c, readCriterion (.criterion c) = .ok c := fun _ => rfl
  rw [readSorting_append visible others (readItems_map self criteria)] at sorted
  rw [Query.ordering_eq_criteria visible, Query.criteria, ← Except.ok.inj sorted] at ordered
  cases ordered
  cases criteria <;> rfl

/-! ### Building -/

theorem QueryOperation.name_mem (operation : QueryOperation) :
    operation.name ∈ QueryType.operationNames := by
  cases operation <;> simp [QueryType.operationNames]

namespace QueryType.Extends

variable {type : QueryType} {q : Query} {added : Addition} (h : type.Extends q.type added)

include h

theorem ordering_retyped : (q.retyped type).ordering = q.ordering := by
  unfold Query.ordering
  rw [← h.replacesSorting_eq]
  rfl

/-- The fields of the addition make no calls while they are unset. -/
theorem forM_applyFilter_retyped (unset : ∀ field ∈ added.fields, q.value field.name = .null) :
    type.filters.forM (q.retyped type).applyFilter = q.type.filters.forM q.applyFilter := by
  have own : added.filters.forM q.applyFilter = pure () := by
    refine forM_eq_pure fun rule known => Query.applyFilter_eq_pure ?_
    obtain ⟨field, mem, same⟩ := List.mem_map.1 (h.own rule known)
    exact same ▸ unset field mem
  have alike : (q.retyped type).applyFilter = q.applyFilter := rfl
  rw [alike, h.filters, List.forM_eq_forM, List.forM_append, ← List.forM_eq_forM, own]
  exact bind_pure_unit

variable (visible : ∀ field ∈ added.fields, field.name ∉ operationNames)

include visible

theorem field?_retyped {name : String} (operation : name ∈ operationNames) :
    (q.retyped type).field? name = q.field? name := by
  have same := h.hides_eq fun field mem named => visible field mem (named ▸ operation)
  unfold hides at same
  unfold Query.field?
  rw [← same]
  rfl

theorem require_retyped (operation : QueryOperation) :
    (q.retyped type).require operation = q.require operation := by
  unfold Query.require
  rw [h.field?_retyped visible operation.name_mem]

theorem applySort_retyped {criterion : SortCriterion}
    (listed : q.type.sortFields.contains criterion.field = true) :
    (q.retyped type).applySort criterion = q.applySort criterion := by
  have larger : (q.retyped type).type.sortFields.contains criterion.field = true :=
    h.contains_of_contains listed
  obtain ⟨call, found⟩ := Option.isSome_iff_exists.1 listed
  have ordering : type.sortFields.apply criterion = q.type.sortFields.apply criterion := by
    unfold SortWhitelist.apply SortWhitelist.ordering
    rw [found, h.orderings _ _ found]
  unfold Query.applySort Query.sortFields
  rw [h.require_retyped visible, h.require_retyped visible, checkSortField_eq_ok.2 listed,
    checkSortField_eq_ok.2 larger, h.field?_retyped visible (by simp [operationNames])]
  cases q.field? Declaration.sortFieldsName with
  | some d => rfl
  | none =>
    simp only [lift_ok_bind]
    exact congrArg _ (funext fun _ => congrArg _ (funext fun _ => ordering))

theorem build_retyped {criteria : List SortCriterion} (ordered : q.ordering = .ok criteria)
    (listed : ∀ c ∈ criteria, q.type.sortFields.contains c.field = true)
    (unset : ∀ field ∈ added.fields, q.value field.name = .null) :
    (q.retyped type).build = q.build := by
  have larger : ∀ c ∈ criteria, (q.retyped type).type.sortFields.contains c.field = true :=
    fun c mem => h.contains_of_contains (listed c mem)
  have factory : (q.retyped type).type.factory = q.type.factory := h.factory
  have filters : (q.retyped type).type.filters.forM (q.retyped type).applyFilter =
      q.type.filters.forM q.applyFilter := h.forM_applyFilter_retyped unset
  have sorts : criteria.forM (q.retyped type).applySort = criteria.forM q.applySort :=
    forM_congr fun c mem => h.applySort_retyped visible (listed c mem)
  unfold Query.build
  rw [h.ordering_retyped, ordered]
  simp only [lift_ok_bind, resolve_eq_ok.2 ⟨rfl, listed⟩, resolve_eq_ok.2 ⟨rfl, larger⟩,
    h.require_retyped visible, factory, filters, sorts]

end QueryType.Extends

/-! ### Outcomes -/

/-- The outcomes of one request for a base and for a type that extends it: queries that do the same
to every engine, or failures that differ at most in the name of the type. -/
inductive QueryType.Agree (base type : QueryType) :
    Except Failure Query → Except Failure Query → Prop
  | made {q : Query} (own : q.type = base)
      (builds : ∀ e, runFrom (q.retyped type).build e = runFrom q.build e) :
      Agree base type (.ok q) (.ok (q.retyped type))
  | failed (failure : Failure) : Agree base type (.error failure) (.error failure)
  | unread (issues : Issues) :
      Agree base type (.error (.validation base.name issues))
        (.error (.validation type.name issues))

namespace QueryType.Extends

variable {type base : QueryType} {added : Addition}

theorem construct_agrees (h : type.Extends base added)
    (visible : ∀ field ∈ added.fields, field.name ∉ operationNames)
    {values : List (String × Datum)} {criteria : List SortCriterion}
    (known : ∀ entry ∈ values, entry.1 ∈ base.fields.map (·.name) ∧ entry.1 ≠ sortingField)
    (listed : ∀ c ∈ criteria, base.sortFields.contains c.field = true) :
    base.Agree type (base.construct (values ++ sortingEntry (criteria.map .criterion)))
      (type.construct (values ++ sortingEntry (criteria.map .criterion))) := by
  have named : ∀ entry ∈ values ++ sortingEntry (criteria.map .criterion),
      entry.1 ∈ sortingField :: base.fields.map (·.name) := by
    intro entry mem
    rcases List.mem_append.1 mem with mem | mem
    · exact List.mem_cons_of_mem _ (known entry mem).1
    · exact mem_sortingEntry mem ▸ List.mem_cons_self
  rw [construct, construct, h.read_eq named]
  cases reads : base.read (values ++ sortingEntry (criteria.map .criterion)) with
  | error issues => exact .unread issues
  | ok q =>
    obtain ⟨rfl, _, gives⟩ := read_eq_ok reads
    have unset : ∀ field ∈ added.fields, q.value field.name = .null := by
      intro field mem
      have other : field.name ∉ q.type.fields.map (·.name) := fun old =>
        h.fresh field mem (List.mem_cons_of_mem _ old)
      rw [Query.value, Field.lookup_eq_none_of_readGiven gives other]
      rfl
    change q.type.Agree type (accept q) (accept (q.retyped type))
    have ordering := h.ordering_retyped
    cases ordered : q.ordering with
    | error failure =>
      have refused : ∀ r : Query, r.ordering = .error failure → accept r = .error failure := by
        intro r fails
        rw [accept, fails]
        rfl
      rw [refused q ordered, refused _ (ordering.trans ordered)]
      exact .failed failure
    | ok found =>
      obtain rfl := criteria_of_read (fun entry mem => (known entry mem).2) reads ordered
      have larger : ∀ c ∈ found, type.sortFields.contains c.field = true :=
        fun c mem => h.contains_of_contains (listed c mem)
      rw [accept_eq_ok.2 ⟨rfl, found, ordered, listed⟩,
        accept_eq_ok.2 ⟨rfl, found, ordering.trans ordered, larger⟩]
      exact .made rfl fun e => by rw [h.build_retyped visible ordered listed unset]

end QueryType.Extends

/-! ### Declarations -/

/-- Each rule is about a field of the type, and made for the field's type of values. -/
structure QueryType.Settled (type : QueryType) : Prop where
  own : ∀ rule ∈ type.filters, rule.field ∈ type.fields.map (·.name)
  adapted : Declaration.adaptRules type.filters type.fields = type.filters

namespace Declaration

/-- What a declaration adds to its base. -/
def addition (d : Declaration) : Addition where
  parameters := d.parameters
  fields := d.fields.map fun (name, type) => { name, type }
  filters := d.fields.map fun (name, _) => .named name

theorem addField_eq_append {fields : List Field} {field : Field}
    (fresh : field.name ∉ sortingField :: fields.map (·.name)) :
    addField fields field = fields ++ [field] := by
  rw [List.mem_cons, not_or] at fresh
  have new : fields.any (·.name == field.name) = false := by
    refine List.any_eq_false.2 fun other mem => ?_
    rw [beq_iff_eq]
    exact fun same => fresh.2 (List.mem_map.2 ⟨other, mem, same⟩)
  rw [addField, new, if_neg Bool.false_ne_true, if_neg fresh.1]

/-- Fields of new names are added at the end. -/
theorem foldl_addField {declared : List Field} (fields : List Field)
    (fresh : ∀ field ∈ declared, field.name ∉ sortingField :: fields.map (·.name))
    (distinct : (declared.map (·.name)).Nodup) :
    declared.foldl addField fields = fields ++ declared := by
  induction declared generalizing fields with
  | nil => exact (List.append_nil _).symm
  | cons field declared ih =>
    obtain ⟨first, others⟩ := List.forall_mem_cons.1 fresh
    rw [List.map_cons, List.nodup_cons] at distinct
    have rest : ∀ other ∈ declared,
        other.name ∉ sortingField :: (fields ++ [field]).map (·.name) := by
      intro other mem old
      rw [List.map_append, ← List.cons_append, List.mem_append] at old
      rcases old with old | same
      · exact others other mem old
      · have named : other.name = field.name := List.mem_singleton.1 same
        exact distinct.1 (named ▸ List.mem_map_of_mem mem)
    rw [List.foldl_cons, addField_eq_append first, ih _ rest distinct.2, List.append_assoc,
      List.singleton_append]

/-- Rules that suit the fields of a base are kept. -/
theorem adaptRules_append {base : QueryType} (settled : base.Settled) (more : List Field) :
    adaptRules base.filters (base.fields ++ more) = base.filters := by
  refine Eq.trans (List.map_congr_left fun rule known => ?_) settled.adapted
  obtain ⟨field, mem, same⟩ := List.mem_map.1 (settled.own rule known)
  have isField : (base.fields.find? (·.name == rule.field)).isSome = true :=
    List.find?_isSome.2 ⟨field, mem, beq_iff_eq.2 same⟩
  obtain ⟨first, found⟩ := Option.isSome_iff_exists.1 isField
  rw [List.find?_append, found, Option.some_or]

/-- A declaration that replaces nothing of its base. -/
structure AddsTo (d : Declaration) (base : QueryType) : Prop where
  based : d.base = some base
  tables : ∀ name ∈ [parametersName, sortFieldsName], d.declaresField name = false
  named : ∀ field ∈ d.fields, isFieldName field.1 = true
  fresh : ∀ field ∈ d.fields, field.1 ∉ sortingField :: base.fields.map (·.name)
  distinct : (d.fields.map (·.1)).Nodup
  sorts : ∀ pair ∈ d.sortFields, pair.1 ∉ base.sortFields.names

/-- The type that such a declaration describes extends the base. -/
theorem AddsTo.extends_base {d : Declaration} {base type : QueryType} (adds : d.AddsTo base)
    (settled : base.Settled) (made : d.toQueryType = .ok type) :
    type.Extends base d.addition := by
  have parameters := adds.tables parametersName (by simp)
  have sortFields := adds.tables sortFieldsName (by simp)
  have declared : d.fields.filter (isFieldName ·.1) = d.fields := List.filter_eq_self.2 adds.named
  have fresh : ∀ field ∈ d.addition.fields,
      field.name ∉ sortingField :: base.fields.map (·.name) := by
    intro field mem
    obtain ⟨entry, known, rfl⟩ := List.mem_map.1 mem
    exact adds.fresh entry known
  have distinct : (d.addition.fields.map (·.name)).Nodup := by
    rw [addition, List.map_map]
    exact adds.distinct
  have fields : (d.fields.map fun (name, type) => { name, type : Field }).foldl addField
      base.fields = base.fields ++ d.addition.fields := foldl_addField base.fields fresh distinct
  simp only [toQueryType, bind_eq_ok, declared, adds.based, Option.map_some, Option.getD_some,
    fields, adaptRules_append settled, List.map_map] at made
  obtain ⟨table, tabled, _, _, made⟩ := made
  simp only [parameterTable, adds.based, Option.map_some, Option.getD_some, parameters,
    Bool.false_eq_true, if_false, bind_pure] at tabled
  unfold QueryType.of at made
  split at made
  · cases made
  · cases made
    exact {
      parameters := tabled
      fields := rfl
      orderings := by
        intro field call found
        simp only [whitelist, adds.based, Option.map_some, Option.getD_some, sortFields,
          Bool.false_eq_true, if_false]
        exact SortWhitelist.lookup_extend adds.sorts found
      factory := rfl
      filters := rfl
      fresh
      unset := by
        intro field mem
        obtain ⟨entry, _, rfl⟩ := List.mem_map.1 mem
        rfl
      own := by
        intro rule mem
        obtain ⟨entry, known, rfl⟩ := List.mem_map.1 mem
        rw [addition, List.map_map]
        exact List.mem_map.2 ⟨entry, known, rfl⟩ }

end Declaration

/-! ### Tasks -/

namespace Task

theorem settled : queryType.Settled where
  own := by decide +kernel
  adapted := rfl

/-- Asks for the tasks that are assigned, the most urgent ones first. -/
def urgent : RawParameters :=
  [("assigned", ["true"]), ("sortBy", ["priority"]), ("sortOrder", ["desc"])]

def urgentQuery : Query := ⟨queryType, [("assigned", .flag true)], some [⟨"priority", .desc⟩]⟩

theorem fromParameters_urgent : queryType.fromParameters urgent = .ok urgentQuery := rfl

theorem owned_addsTo : owned.AddsTo queryType :=
  ⟨rfl, by decide +kernel, by decide +kernel, by decide +kernel, by decide +kernel,
    by decide +kernel⟩

theorem unsortable_addsTo : unsortable.AddsTo queryType :=
  ⟨rfl, by decide +kernel, by decide +kernel, by decide +kernel, by decide +kernel,
    by decide +kernel⟩

end Task
end QueryBinding
