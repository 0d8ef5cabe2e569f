import QueryBinding.Catalog.HistoricIncident
import QueryBinding.Proofs.Run
import QueryBinding.Sort.Resolution
/-!
Sorting by two parameters, one for the fields and one for the directions. What the values of the two
come to is said apart from how they are checked: the first fault counts, an unknown field before a
word that is no direction, and both before lists of unequal length.
-/
namespace QueryBinding

namespace SortOrder

variable {s : String} {order : SortOrder}

theorem ofSymbol?_eq_some : ofSymbol? s = some order ↔ order.symbol = s := by
  constructor
  · intro found
    have same := List.find?_some (p := fun order : SortOrder => order.symbol == s) found
    exact beq_iff_eq.1 same
  · rintro rfl
    exact ofSymbol?_symbol order

theorem mem_words : s ∈ ["asc", "desc"] ↔ ∃ order : SortOrder, order.symbol = s := by
  simp only [List.mem_cons, List.not_mem_nil, or_false]
  constructor
  · rintro (rfl | rfl)
    · exact ⟨.asc, rfl⟩
    · exact ⟨.desc, rfl⟩
  · rintro ⟨_ | _, rfl⟩
    · exact .inl rfl
    · exact .inr rfl

theorem ofParameter_symbol (order : SortOrder) : ofParameter order.symbol = .ok order := by
  rw [ofParameter, ofSymbol?_symbol]

theorem ofParameter_of_not_mem (unknown : s ∉ ["asc", "desc"]) :
    ofParameter s = .error (.binding "sortOrder" (.text s) .sortOrder) := by
  unfold ofParameter
  split
  · rename_i order found
    exact absurd (mem_words.2 ⟨order, ofSymbol?_eq_some.1 found⟩) unknown
  · rfl

end SortOrder

theorem SortWhitelist.contains_eq_true {whitelist : SortWhitelist} {field : String} :
    whitelist.contains field = true ↔ field ∈ whitelist.names := by
  rw [contains, List.lookup_isSome_iff, names, Entries.keys, List.mem_map]
  constructor
  · rintro ⟨entry, mem, same⟩
    exact ⟨entry, mem, (beq_iff_eq.1 same).symm⟩
  · rintro ⟨entry, mem, rfl⟩
    exact ⟨entry, mem, beq_self_eq_true _⟩

theorem SortWhitelist.contains_eq_false {whitelist : SortWhitelist} {field : String} :
    whitelist.contains field = false ↔ field ∉ whitelist.names := by
  rw [← contains_eq_true, Bool.not_eq_true]

namespace QueryType

variable {type : QueryType} {fields orders : List String}

/-! ### Checked fields -/

theorem checkSortField_eq_ok {field : String} :
    type.checkSortField field = .ok () ↔ type.sortFields.contains field = true := by
  unfold checkSortField isValidSortField
  split <;> simp_all

theorem checkSortFields_eq_ok {fields : List String} :
    type.checkSortFields fields = .ok () ↔
      ∀ field ∈ fields, type.sortFields.contains field = true := by
  induction fields with
  | nil => simp [checkSortFields]
  | cons field fields ih =>
    simp only [checkSortFields, bind_eq_ok, ih, List.forall_mem_cons, ← checkSortField_eq_ok]
    constructor
    · rintro ⟨_, head, tail⟩
      exact ⟨head, tail⟩
    · rintro ⟨head, tail⟩
      exact ⟨(), head, tail⟩

theorem checkSortField_eq_error {field : String} {failure : Failure} :
    type.checkSortField field = .error failure ↔
      type.sortFields.contains field = false ∧ failure = .sortField field type.name := by
  unfold checkSortField isValidSortField
  split
  · rename_i listed
    simp [listed]
  · rename_i unlisted
    simp only [Except.error.injEq, Bool.eq_false_iff.2 unlisted, true_and]
    exact eq_comm

theorem checkSortFields_eq (fields : List String) :
    type.checkSortFields fields = (fields.mapM type.checkSortField).map fun _ => () := by
  induction fields with
  | nil => rfl
  | cons field fields ih =>
    rw [checkSortFields, ih, List.mapM_cons]
    cases type.checkSortField field with
    | error failure => rfl
    | ok _ => cases fields.mapM type.checkSortField <;> rfl

/-- Sort fields fail by the first of them that results cannot be ordered by. -/
theorem checkSortFields_eq_error {fields : List String} {failure : Failure} :
    type.checkSortFields fields = .error failure ↔
      ∃ before field after, fields = before ++ field :: after ∧
        (∀ f ∈ before, type.sortFields.contains f = true) ∧
        type.sortFields.contains field = false ∧ failure = .sortField field type.name := by
  have accepts (field : String) : (∃ u, type.checkSortField field = .ok u) ↔
      type.sortFields.contains field = true := by
    rw [← checkSortField_eq_ok]
    exact ⟨fun ⟨_, known⟩ => known, fun known => ⟨(), known⟩⟩
  simp only [checkSortFields_eq, map_eq_error, mapM_eq_error, accepts, checkSortField_eq_error]

/-- Results of the type cannot be ordered by the field of the failure. -/
def Unsortable (type : QueryType) (failure : Failure) : Prop :=
  ∃ field, type.sortFields.contains field = false ∧ failure = .sortField field type.name

theorem checkSortFields_unsortable (fields : List String) :
    FailsOnly type.Unsortable (type.checkSortFields fields) := by
  intro failure fails
  obtain ⟨_, field, _, _, _, unlisted⟩ := checkSortFields_eq_error.1 fails
  exact ⟨field, unlisted⟩

/-! ### Paired values -/

/-- What the values of the two sort parameters come to. -/
inductive Pairing (type : QueryType) (fields orders : List String) :
    Except Failure (List SortCriterion) → Prop
  | unlisted {before : List String} {field : String} {after : List String}
      (cut : fields = before ++ field :: after)
      (listed : ∀ f ∈ before, f ∈ type.sortFields.names) (unknown : field ∉ type.sortFields.names) :
    Pairing type fields orders (.error (.sortField field type.name))
  | undirected {before : List String} {word : String} {after : List String}
      (listed : ∀ f ∈ fields, f ∈ type.sortFields.names) (cut : orders = before ++ word :: after)
      (directed : ∀ w ∈ before, w ∈ ["asc", "desc"]) (unknown : word ∉ ["asc", "desc"]) :
    Pairing type fields orders (.error (.binding "sortOrder" (.text word) .sortOrder))
  | unpaired (listed : ∀ f ∈ fields, f ∈ type.sortFields.names)
      (directed : ∀ w ∈ orders, w ∈ ["asc", "desc"]) (differ : fields.length ≠ orders.length) :
    Pairing type fields orders (.error (.invalidRequest .unpairedSorting))
  | paired {criteria : List SortCriterion} (listed : ∀ f ∈ fields, f ∈ type.sortFields.names)
      (fields_eq : criteria.map (·.field) = fields)
      (orders_eq : criteria.map (·.order.symbol) = orders) :
    Pairing type fields orders (.ok criteria)

theorem exists_directions (directed : ∀ w ∈ orders, w ∈ ["asc", "desc"]) :
    ∃ directions : List SortOrder, directions.map SortOrder.symbol = orders := by
  induction orders with
  | nil => exact ⟨[], rfl⟩
  | cons w orders ih =>
    obtain ⟨head, tail⟩ := List.forall_mem_cons.1 directed
    obtain ⟨order, rfl⟩ := SortOrder.mem_words.1 head
    obtain ⟨directions, rfl⟩ := ih tail
    exact ⟨order :: directions, rfl⟩

theorem mapM_ofParameter (directions : List SortOrder) :
    (directions.map SortOrder.symbol).mapM SortOrder.ofParameter = .ok directions := by
  rw [mapM_eq_ok, List.map_map]
  exact List.map_congr_left fun order _ => SortOrder.ofParameter_symbol order

/-- Whatever the values are, they come to something. -/
theorem exists_pairing (type : QueryType) (fields orders : List String) :
    ∃ result, Pairing type fields orders result := by
  rcases forall_or_exists_first (· ∈ type.sortFields.names) fields with
    listed | ⟨_, _, _, cut, listed, unknown⟩
  · rcases forall_or_exists_first (· ∈ ["asc", "desc"]) orders with
      directed | ⟨_, _, _, cut, directed, unknown⟩
    · by_cases same : fields.length = orders.length
      · obtain ⟨directions, rfl⟩ := exists_directions directed
        rw [List.length_map] at same
        have firsts : (fields.zip directions).map Prod.fst = fields :=
          List.map_fst_zip (Nat.le_of_eq same)
        have seconds : (fields.zip directions).map Prod.snd = directions :=
          List.map_snd_zip (Nat.le_of_eq same.symm)
        refine ⟨.ok ((fields.zip directions).map fun pair => ⟨pair.1, pair.2⟩),
          .paired listed ?_ ?_⟩
        · rw [List.map_map]
          exact firsts
        · conv_rhs => rw [← seconds]
          rw [List.map_map, List.map_map]
          rfl
      · exact ⟨_, .unpaired listed directed same⟩
    · exact ⟨_, .undirected listed cut directed unknown⟩
  · exact ⟨_, .unlisted cut listed unknown⟩

theorem Pairing.criteriaOf_eq {result : Except Failure (List SortCriterion)}
    (h : Pairing type fields orders result) : type.criteriaOf fields orders = result := by
  have checked (listed : ∀ f ∈ fields, f ∈ type.sortFields.names) :
      type.checkSortFields fields = .ok () :=
    checkSortFields_eq_ok.2 fun f mem => SortWhitelist.contains_eq_true.2 (listed f mem)
  cases h with
  | @unlisted before field after cut listed unknown =>
    have fails : type.checkSortFields fields = .error (.sortField field type.name) := by
      have unlisted := SortWhitelist.contains_eq_false.2 unknown
      refine checkSortFields_eq_error.2 ⟨before, field, after, cut, ?_, unlisted, rfl⟩
      intro f mem
      exact SortWhitelist.contains_eq_true.2 (listed f mem)
    rw [criteriaOf, fails]
    rfl
  | @undirected before word after listed cut directed unknown =>
    have fails : orders.mapM SortOrder.ofParameter =
        .error (.binding "sortOrder" (.text word) .sortOrder) := by
      refine mapM_eq_error.2 ⟨before, word, after, cut, fun w mem => ?_,
        SortOrder.ofParameter_of_not_mem unknown⟩
      obtain ⟨order, rfl⟩ := SortOrder.mem_words.1 (directed w mem)
      exact ⟨order, SortOrder.ofParameter_symbol order⟩
    rw [criteriaOf, checked listed, fails]
    rfl
  | unpaired listed directed differ =>
    obtain ⟨directions, rfl⟩ := exists_directions directed
    rw [List.length_map] at differ
    rw [criteriaOf, checked listed, mapM_ofParameter]
    exact if_neg differ
  | @paired criteria listed fields_eq orders_eq =>
    subst fields_eq orders_eq
    have directions := mapM_ofParameter (criteria.map (·.order))
    rw [List.map_map] at directions
    change (criteria.map (·.order.symbol)).mapM _ = _ at directions
    rw [criteriaOf, checked listed, directions]
    simp [bind, Except.bind, pure, Except.pure, List.zipWith_map, List.zipWith_self]

/-- The two parameters come to one thing only, so that what is known of it is known of them. -/
theorem pairing_criteriaOf (type : QueryType) (fields orders : List String) :
    type.Pairing fields orders (type.criteriaOf fields orders) := by
  obtain ⟨result, pairing⟩ := exists_pairing type fields orders
  rw [pairing.criteriaOf_eq]
  exact pairing

theorem criteriaOf_eq_ok {criteria : List SortCriterion} :
    type.criteriaOf fields orders = .ok criteria ↔
      (∀ f ∈ fields, f ∈ type.sortFields.names) ∧ criteria.map (·.field) = fields ∧
        criteria.map (·.order.symbol) = orders := by
  constructor
  · intro h
    have pairing := pairing_criteriaOf type fields orders
    rw [h] at pairing
    cases pairing with
    | paired listed fields_eq orders_eq => exact ⟨listed, fields_eq, orders_eq⟩
  · rintro ⟨listed, fields_eq, orders_eq⟩
    exact (Pairing.paired listed fields_eq orders_eq).criteriaOf_eq

/-- The two parameters are taken for what their values come to and for nothing else, and criteria
whose fields and directions are written down in order are paired again. -/
theorem criteriaOf_eq_iff (type : QueryType) :
    (∀ fields orders result,
      type.criteriaOf fields orders = result ↔ type.Pairing fields orders result) ∧
    ∀ criteria : List SortCriterion, (∀ c ∈ criteria, c.field ∈ type.sortFields.names) →
      type.criteriaOf (criteria.map (·.field)) (criteria.map (·.order.symbol)) = .ok criteria := by
  constructor
  · intro fields orders result
    constructor
    · rintro rfl
      exact pairing_criteriaOf type fields orders
    · exact Pairing.criteriaOf_eq
  · intro criteria listed
    exact (Pairing.paired (List.forall_mem_map.2 listed) rfl rfl).criteriaOf_eq

/-- An unknown field is told before a word that is no direction; a field may be repeated. -/
theorem criteriaOf_eq_iff_incident :
    HistoricIncident.queryType.criteriaOf ["createTime", "owner"] ["up"] =
      .error (.sortField "owner" "HistoricIncidentQueryDto") ∧
    (∀ c ∈ [SortCriterion.mk "createTime" .desc, ⟨"createTime", .asc⟩],
      c.field ∈ HistoricIncident.queryType.sortFields.names) ∧
    HistoricIncident.queryType.criteriaOf ["createTime", "createTime"] ["desc", "asc"] =
      .ok [⟨"createTime", .desc⟩, ⟨"createTime", .asc⟩] := by
  have unknown : "owner" ∉ HistoricIncident.queryType.sortFields.names := by decide
  have before : ∀ f ∈ ["createTime"], f ∈ HistoricIncident.queryType.sortFields.names := by decide
  have listed : ∀ c ∈ [SortCriterion.mk "createTime" .desc, ⟨"createTime", .asc⟩],
      c.field ∈ HistoricIncident.queryType.sortFields.names := by decide
  obtain ⟨comes_to, again⟩ := criteriaOf_eq_iff HistoricIncident.queryType
  exact ⟨(comes_to _ _ _).2 (.unlisted rfl before unknown), listed, again _ listed⟩

end QueryType
end QueryBinding
