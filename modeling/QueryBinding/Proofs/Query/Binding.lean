import QueryBinding.Parameter.Binding
import QueryBinding.Proofs.Entries
import QueryBinding.Proofs.Run
/-!
Bound parameters. A field is bound to the converted texts of its own parameter, whatever else a
request gives, and it is left out if there are no texts.
-/
namespace QueryBinding

namespace RawParameters

/-- The texts that a request supplies for a parameter: of several values under one name the last. -/
def supplied (pairs : List (String × RawValue)) (name : String) : List String :=
  ((pairs.reverse.lookup name).map RawValue.texts).getD []

theorem values_normalize (pairs : List (String × RawValue)) (name : String) :
    (normalize pairs).values name = supplied pairs name := by
  rw [values, normalize, Entries.lookup_putAll, ← List.map_reverse, Entries.lookup_map_snd,
    List.lookup_nil, Option.or_none, supplied]

end RawParameters

/-- A refused text is told together with the name of its parameter, by whichever kind of failure to
convert it was refused. -/
def Failure.about (name : String) : Failure → Failure
  | .conversion value reason => .binding name value reason
  | .binding _ value reason => .binding name value reason
  | .raised .conversion [value, reason] => .raised .binding [.text name, value, reason]
  | .raised .binding [_, value, reason] => .raised .binding [.text name, value, reason]
  | failure => failure

namespace Parameter

/-- What a parameter does with its texts before failures get its name. -/
def converted (p : Parameter) (texts : List String) : Except Failure Datum :=
  if p.multiValued then p.converter.convertAll texts
  else
    match texts with
    | s :: _ => p.converter.convert s
    | [] => .error .noValue

theorem convert_eq (p : Parameter) (texts : List String) :
    p.convert texts = (p.converted texts).mapError (Failure.about p.name) := by
  have told (result : Except Failure Datum) (given : p.converted texts = result) :
      (p.converted texts).mapError (Failure.about p.name) =
        result.mapError (Failure.about p.name) := by rw [given]
  unfold convert
  dsimp only
  split
  · exact (told _ ‹_›).symm
  · exact (told _ ‹_›).symm
  · exact (told _ ‹_›).symm
  · exact (told _ ‹_›).symm
  · rename_i conversion binding raisedConversion raisedBinding
    cases given : p.converted texts with
    | ok d => exact given
    | error failure =>
      refine given.trans (congrArg Except.error ?_)
      unfold Failure.about
      split
      · exact absurd given (conversion _ _)
      · exact absurd given (binding _ _ _)
      · exact absurd given (raisedConversion _ _)
      · exact absurd given (raisedBinding _ _ _)
      · rfl

theorem convert_eq_ok {p : Parameter} {texts : List String} {d : Datum} :
    p.convert texts = .ok d ↔ p.converted texts = .ok d := by
  rw [convert_eq, mapError_eq_ok]

theorem convert_eq_error {p : Parameter} {texts : List String} {failure : Failure} :
    p.convert texts = .error failure ↔
      ∃ cause, p.converted texts = .error cause ∧ cause.about p.name = failure := by
  rw [convert_eq, mapError_eq_error]

/-- Parameters fail only if one that is given does. -/
theorem bindAll_failsOnly {allowed : Failure → Prop} {ps : List Parameter} {raw : RawParameters}
    (each : ∀ p ∈ ps, raw.values p.name ≠ [] →
      FailsOnly allowed (p.convert (raw.values p.name))) :
    FailsOnly allowed (bindAll ps raw) := by
  induction ps with
  | nil => exact .ok []
  | cons p ps ih =>
    obtain ⟨first, others⟩ := List.forall_mem_cons.1 each
    rw [bindAll]
    split
    · exact ih others
    · rename_i given
      exact (first given).bind fun d => (ih others).bind fun values => .ok _

/-- The step of `bindAll`: a parameter without texts is passed over. -/
theorem bindAll_cons_eq_ok {p : Parameter} {ps : List Parameter} {raw : RawParameters}
    {values : List (String × Datum)} (h : bindAll (p :: ps) raw = .ok values) :
    (raw.values p.name = [] ∧ bindAll ps raw = .ok values) ∨
      ∃ d rest, raw.values p.name ≠ [] ∧ p.convert (raw.values p.name) = .ok d ∧
        bindAll ps raw = .ok rest ∧ values = (p.field, d) :: rest := by
  rw [bindAll] at h
  split at h
  · exact .inl ⟨‹_›, h⟩
  · rename_i given
    simp only [bind_eq_ok] at h
    obtain ⟨d, converts, rest, binds, same⟩ := h
    exact .inr ⟨d, rest, given, converts, binds, (Except.ok.inj same).symm⟩

theorem mem_fields_of_bindAll {ps : List Parameter} {raw : RawParameters}
    {values : List (String × Datum)} (h : bindAll ps raw = .ok values) :
    ∀ entry ∈ values, entry.1 ∈ ps.map (·.field) := by
  induction ps generalizing values with
  | nil =>
    cases h
    simp
  | cons p ps ih =>
    intro entry mem
    rcases bindAll_cons_eq_ok h with ⟨_, binds⟩ | ⟨d, rest, _, _, binds, rfl⟩
    · exact List.mem_cons_of_mem _ (ih binds entry mem)
    · rcases List.mem_cons.1 mem with rfl | mem
      · exact List.mem_cons_self
      · exact List.mem_cons_of_mem _ (ih binds entry mem)

theorem lookup_eq_none_of_bindAll {ps : List Parameter} {raw : RawParameters}
    {values : List (String × Datum)} (h : bindAll ps raw = .ok values) {field : String}
    (other : field ∉ ps.map (·.field)) : values.lookup field = none :=
  Entries.lookup_eq_none (mem_fields_of_bindAll h) other

/-- What a field is bound to depends only on the texts of its parameter. -/
theorem lookup_bindAll {ps : List Parameter} {raw : RawParameters} {values : List (String × Datum)}
    (nodup : (ps.map (·.field)).Nodup) (h : bindAll ps raw = .ok values) {p : Parameter}
    (mem : p ∈ ps) :
    (raw.values p.name = [] ∧ values.lookup p.field = none) ∨
      ∃ d, raw.values p.name ≠ [] ∧ p.convert (raw.values p.name) = .ok d ∧
        values.lookup p.field = some d := by
  induction ps generalizing values with
  | nil => cases mem
  | cons first ps ih =>
    rw [List.map_cons, List.nodup_cons] at nodup
    rcases List.mem_cons.1 mem with rfl | mem
    · rcases bindAll_cons_eq_ok h with ⟨empty, binds⟩ | ⟨d, rest, given, converts, binds, rfl⟩
      · exact .inl ⟨empty, lookup_eq_none_of_bindAll binds nodup.1⟩
      · exact .inr ⟨d, given, converts, List.lookup_cons_self⟩
    · have differs : p.field ≠ first.field := fun same => nodup.1 (same ▸ List.mem_map_of_mem mem)
      rcases bindAll_cons_eq_ok h with ⟨_, binds⟩ | ⟨d, rest, _, _, binds, rfl⟩
      · exact ih nodup.2 binds mem
      · rw [List.lookup_cons, beq_eq_false_iff_ne.2 differs]
        exact ih nodup.2 binds mem

/-! ### Values by name -/

variable {find : String → Option Datum}

theorem mem_fields_of_filterMap {ps : List Parameter} {entry : String × Datum}
    (mem : entry ∈ ps.filterMap fun p => (find p.name).map fun d => (p.field, d)) :
    entry.1 ∈ ps.map (·.field) := by
  obtain ⟨p, known, found⟩ := List.mem_filterMap.1 mem
  obtain ⟨d, _, rfl⟩ := Option.map_eq_some_iff.1 found
  exact List.mem_map_of_mem known

/-- A field has the value that is found under the name of its parameter. -/
theorem lookup_filterMap {ps : List Parameter} (nodup : (ps.map (·.field)).Nodup) {p : Parameter}
    (mem : p ∈ ps) :
    (ps.filterMap fun p => (find p.name).map fun d => (p.field, d)).lookup p.field =
      find p.name := by
  induction ps with
  | nil => cases mem
  | cons first ps ih =>
    rw [List.map_cons, List.nodup_cons] at nodup
    rw [List.filterMap_cons]
    rcases List.mem_cons.1 mem with rfl | mem
    · cases found : find p.name with
      | some d => exact List.lookup_cons_self
      | none => exact Entries.lookup_eq_none (fun _ => mem_fields_of_filterMap) nodup.1
    · have differs : p.field ≠ first.field := fun same => nodup.1 (same ▸ List.mem_map_of_mem mem)
      cases found : find first.name with
      | some d =>
        rw [Option.map_some]
        dsimp only
        rw [List.lookup_cons, beq_eq_false_iff_ne.2 differs]
        exact ih nodup.2 mem
      | none => exact ih nodup.2 mem

end Parameter

namespace ParameterTable

theorem keys_byField (table : ParameterTable) : Entries.keys table.byField = table.fields := by
  rw [Entries.keys, byField, List.map_map]
  rfl

theorem nodup_keys_byField (table : ParameterTable) : (Entries.keys table.byField).Nodup :=
  keys_byField table ▸ table.nodup_fields

/-- Requests know the field of a parameter by the parameter's name. -/
theorem externalName_field {table : ParameterTable} {p : Parameter}
    (mem : p ∈ table.toList) : table.externalName p.field = p.name := by
  have found : table.byField.lookup p.field = some p :=
    Entries.lookup_of_mem table.nodup_keys_byField (List.mem_map.2 ⟨p, mem, rfl⟩)
  rw [externalName, found]

end ParameterTable

end QueryBinding
