import QueryBinding.Catalog.Task
import QueryBinding.Proofs.Query.Binding
/-!
What binding a request comes to. A parameter counts only if the request gives it a text; the first
such parameter in the order of the table that cannot be converted decides, and if there is none,
each of them sets its field. So the order of the request does not matter, and a table that was
extended binds the old parameters and then the new ones.
-/
namespace QueryBinding

namespace Parameter

variable {raw : RawParameters} {p : Parameter}

/-- Whether a request gives the parameter at least one text. -/
def isSupplied (raw : RawParameters) (p : Parameter) : Bool := !(raw.values p.name).isEmpty

theorem isSupplied_eq_true : isSupplied raw p = true ↔ raw.values p.name ≠ [] := by
  simp [isSupplied]

/-- The texts of the parameter, if there are any, can be converted. -/
def Converts (raw : RawParameters) (p : Parameter) : Prop :=
  raw.values p.name ≠ [] → ∃ d, p.converted (raw.values p.name) = .ok d

/-- The entry is the field of the parameter, with what the texts are converted to. -/
def Sets (raw : RawParameters) (p : Parameter) (entry : String × Datum) : Prop :=
  entry.1 = p.field ∧ p.converted (raw.values p.name) = .ok entry.2

def bindOne (raw : RawParameters) (p : Parameter) : Except Failure (String × Datum) :=
  (p.convert (raw.values p.name)).map fun d => (p.field, d)

theorem bindOne_eq_ok {entry : String × Datum} : bindOne raw p = .ok entry ↔ p.Sets raw entry := by
  obtain ⟨field, d⟩ := entry
  simp only [bindOne, map_eq_ok, convert_eq_ok, Sets, Prod.mk.injEq]
  constructor
  · rintro ⟨_, converts, rfl, rfl⟩
    exact ⟨rfl, converts⟩
  · rintro ⟨rfl, converts⟩
    exact ⟨d, converts, rfl, rfl⟩

theorem bindAll_eq_mapM (ps : List Parameter) (raw : RawParameters) :
    bindAll ps raw = (ps.filter (isSupplied raw)).mapM (bindOne raw) := by
  induction ps with
  | nil => rfl
  | cons p ps ih =>
    rw [bindAll]
    split
    · rename_i absent
      rw [List.filter_cons_of_neg (by simp [isSupplied, absent]), ih]
    · rename_i given
      rw [List.filter_cons_of_pos (isSupplied_eq_true.2 given), List.mapM_cons, ih, bindOne]
      cases p.convert (raw.values p.name) <;> rfl

theorem bindAll_append (ps more : List Parameter) (raw : RawParameters) :
    bindAll (ps ++ more) raw = (do return (← bindAll ps raw) ++ (← bindAll more raw)) := by
  simp only [bindAll_eq_mapM, List.filter_append, List.mapM_append]

theorem bindAll_eq_ok {ps : List Parameter} {values : List (String × Datum)} :
    bindAll ps raw = .ok values ↔
      List.Forall₂ (Sets raw) (ps.filter (isSupplied raw)) values := by
  simp only [bindAll_eq_mapM, mapM_eq_ok_iff_forall₂, bindOne_eq_ok]

theorem exists_bindAll {ps : List Parameter} (converts : ∀ p ∈ ps, p.Converts raw) :
    ∃ values, bindAll ps raw = .ok values := by
  simp only [bindAll_eq_ok, exists_forall₂_iff]
  intro p mem
  obtain ⟨known, supplied⟩ := List.mem_filter.1 mem
  obtain ⟨d, converted⟩ := converts p known (isSupplied_eq_true.1 supplied)
  exact ⟨(p.field, d), rfl, converted⟩

theorem exists_error_of_not_converts (fails : ¬p.Converts raw) :
    raw.values p.name ≠ [] ∧ ∃ cause, p.converted (raw.values p.name) = .error cause := by
  obtain ⟨given, none⟩ := Classical.not_imp.1 fails
  cases converted : p.converted (raw.values p.name) with
  | ok d => exact absurd ⟨d, converted⟩ none
  | error cause => exact ⟨given, cause, rfl⟩

/-- The first parameter that cannot be converted decides, whatever comes after it. -/
theorem bindAll_eq_error {before after : List Parameter} {cause : Failure}
    (converts : ∀ b ∈ before, b.Converts raw) (given : raw.values p.name ≠ [])
    (fails : p.converted (raw.values p.name) = .error cause) :
    bindAll (before ++ p :: after) raw = .error (cause.about p.name) := by
  obtain ⟨values, binds⟩ := exists_bindAll converts
  have head : bindAll (p :: after) raw = .error (cause.about p.name) := by
    rw [bindAll]
    split
    · contradiction
    · rw [convert_eq_error.2 ⟨cause, fails, rfl⟩]
      rfl
  rw [bindAll_append, binds, head]
  rfl

theorem bindAll_congr {ps : List Parameter} {other : RawParameters}
    (agree : ∀ p ∈ ps, other.values p.name = raw.values p.name) :
    bindAll ps other = bindAll ps raw := by
  induction ps with
  | nil => rfl
  | cons p ps ih =>
    obtain ⟨first, others⟩ := List.forall_mem_cons.1 agree
    rw [bindAll, bindAll, first, ih others]

end Parameter

namespace ParameterTable

variable {table : ParameterTable} {raw : RawParameters}

/-- What the parameters of a table come to in a request. -/
inductive Binding (table : ParameterTable) (raw : RawParameters) :
    Except Failure (List (String × Datum)) → Prop
  | bound {values : List (String × Datum)}
      (entries : List.Forall₂ (Parameter.Sets raw)
        (table.toList.filter (Parameter.isSupplied raw)) values) :
    Binding table raw (.ok values)
  | refused {before : List Parameter} {p : Parameter} {after : List Parameter} {cause : Failure}
      (cut : table.toList = before ++ p :: after) (converts : ∀ b ∈ before, b.Converts raw)
      (given : raw.values p.name ≠ []) (fails : p.converted (raw.values p.name) = .error cause) :
    Binding table raw (.error (cause.about p.name))

theorem Binding.bind_eq {result : Except Failure (List (String × Datum))}
    (h : table.Binding raw result) : table.bind raw = result := by
  cases h with
  | bound entries => exact Parameter.bindAll_eq_ok.2 entries
  | refused cut converts given fails =>
    rw [bind, cut]
    exact Parameter.bindAll_eq_error converts given fails

theorem exists_binding (table : ParameterTable) (raw : RawParameters) :
    ∃ result, table.Binding raw result := by
  rcases forall_or_exists_first (Parameter.Converts raw) table.toList with
    converts | ⟨before, p, after, cut, converts, fails⟩
  · obtain ⟨values, binds⟩ := Parameter.exists_bindAll converts
    exact ⟨.ok values, .bound (Parameter.bindAll_eq_ok.1 binds)⟩
  · obtain ⟨given, cause, fails⟩ := Parameter.exists_error_of_not_converts fails
    exact ⟨_, .refused cut converts given fails⟩

theorem bind_eq_iff {result : Except Failure (List (String × Datum))} :
    table.bind raw = result ↔ table.Binding raw result := by
  constructor
  · rintro rfl
    obtain ⟨result, binding⟩ := exists_binding table raw
    exact binding.bind_eq ▸ binding
  · exact Binding.bind_eq

theorem exists_bind_iff :
    (∃ values, table.bind raw = .ok values) ↔ ∀ p ∈ table.toList, p.Converts raw := by
  constructor
  · rintro ⟨values, binds⟩
    rcases forall_or_exists_first (Parameter.Converts raw) table.toList with
      converts | ⟨before, p, after, cut, converts, fails⟩
    · exact converts
    · obtain ⟨given, cause, fails⟩ := Parameter.exists_error_of_not_converts fails
      have refused := (Binding.refused cut converts given fails).bind_eq
      rw [binds] at refused
      cases refused
  · exact Parameter.exists_bindAll

theorem bind_of_perm {other : RawParameters} (nodup : (Entries.keys raw).Nodup)
    (same : raw.Perm other) : table.bind other = table.bind raw := by
  refine Parameter.bindAll_congr fun p _ => ?_
  rw [RawParameters.values, RawParameters.values, Entries.lookup_of_perm nodup same]

/-! ### Larger tables -/

theorem toList_add {next : ParameterTable} {p : Parameter} (added : table.add p = .ok next) :
    next.toList = table.toList ++ [p] := by
  unfold add at added
  split at added
  · cases added
  · split at added
    · cases added
    · cases added
      rfl

theorem toList_extend {larger : ParameterTable} {ps : List Parameter}
    (grown : table.extend ps = .ok larger) : larger.toList = table.toList ++ ps := by
  induction ps generalizing table with
  | nil =>
    cases grown
    exact (List.append_nil _).symm
  | cons p ps ih =>
    simp only [extend, List.foldlM_cons, bind_eq_ok] at grown
    obtain ⟨next, added, rest⟩ := grown
    rw [ih rest, toList_add added, List.append_assoc, List.singleton_append]

/-- A request is bound parameter by parameter in the order of the table, whatever its own order is:
all that can be converted are set, or the first that cannot be is told. Parameters that a table is
extended by come after its own. -/
theorem binds_in_order (table : ParameterTable) (raw : RawParameters) :
    (∀ result, table.bind raw = result ↔ table.Binding raw result) ∧
    ((∃ values, table.bind raw = .ok values) ↔ ∀ p ∈ table.toList, p.Converts raw) ∧
    (∀ other : RawParameters, (∀ p ∈ table.toList, other.values p.name = raw.values p.name) →
      table.bind other = table.bind raw) ∧
    (∀ other : RawParameters, (Entries.keys raw).Nodup → raw.Perm other →
      table.bind other = table.bind raw) ∧
    ∀ ps larger, table.extend ps = .ok larger →
      larger.bind raw = (do return (← table.bind raw) ++ (← Parameter.bindAll ps raw)) := by
  refine ⟨fun _ => bind_eq_iff, exists_bind_iff, fun _ => Parameter.bindAll_congr,
    fun _ => bind_of_perm, fun ps larger grown => ?_⟩
  rw [bind, toList_extend grown, Parameter.bindAll_append, bind]

/-- The second parameter is told, although the third one is wrong as well and stands in front of it
in the request. -/
theorem binds_in_order_assigned :
    ∃ (table larger : ParameterTable) (raw shuffled shorter : RawParameters),
      table.toList = Task.declaration.parameters ∧
      table.extend [{ name := "owner", field := "owner" }] = .ok larger ∧
      raw = [("priority", ["high"]), ("owner", ["demo"]), ("assigned", ["no", "true"]),
        ("name", [])] ∧
      shuffled = raw.reverse ∧ shorter = [("assigned", ["no", "true"]), ("priority", ["high"])] ∧
      larger.bind raw = .error (.binding "assigned" (.text "no") .flagWord) ∧
      table.bind shuffled = table.bind raw ∧ table.bind shorter = table.bind raw := by
  let table : ParameterTable := Task.parameters
  let raw : RawParameters :=
    [("priority", ["high"]), ("owner", ["demo"]), ("assigned", ["no", "true"]), ("name", [])]
  let shorter : RawParameters := [("assigned", ["no", "true"]), ("priority", ["high"])]
  obtain ⟨larger, grown⟩ :
    ∃ larger, table.extend [{ name := "owner", field := "owner" }] = .ok larger := ⟨_, rfl⟩
  obtain ⟨comes_to, -, agree, permuted, extended⟩ := binds_in_order table raw
  have converts : ∀ b ∈ [({ name := "name", field := "name" } : Parameter)], b.Converts raw := by
    intro b mem given
    obtain rfl := List.mem_singleton.1 mem
    exact absurd rfl given
  have given : raw.values "assigned" ≠ [] := by decide
  have refused : table.bind raw = .error (.binding "assigned" (.text "no") .flagWord) :=
    (comes_to _).2 (.refused (p := ⟨"assigned", "assigned", .boolean, false⟩) rfl converts given rfl)
  refine ⟨table, larger, raw, raw.reverse, shorter, rfl, grown, rfl, rfl, rfl, ?_, ?_, ?_⟩
  · rw [extended _ _ grown, refused]
    rfl
  · exact permuted _ (by decide) (List.reverse_perm raw).symm
  · exact agree shorter (by decide +kernel)

end ParameterTable
end QueryBinding
