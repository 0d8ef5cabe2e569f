import QueryBinding.Converter
import QueryBinding.Entries
/-!
The parameters that a request may have: each has an external name, the field that it sets, and a
converter. In a table of parameters neither a name nor a field occurs twice; building one reports
the first parameter that repeats an earlier name or, its name being new, an earlier field.
-/
namespace QueryBinding

structure Parameter where
  name : String
  field : String
  converter : Converter := .string
  /-- Whether all the values of a request count, or only the first. -/
  multiValued : Bool := false

/-- The typed value of the texts that were given for a parameter. A failure to convert them is told as
one of this parameter, also if the converter named another parameter. -/
def Parameter.convert (p : Parameter) (texts : List String) : Except Failure Datum :=
  let converted :=
    if p.multiValued then p.converter.convertAll texts
    else
      match texts with
      | s :: _ => p.converter.convert s
      | [] => .error .noValue
  match converted with
  | .error (.conversion value reason) | .error (.binding _ value reason) =>
    .error (.binding p.name value reason)
  | .error (.raised .conversion [value, reason]) | .error (.raised .binding [_, value, reason]) =>
    .error (.raised .binding [.text p.name, value, reason])
  | result => result

structure ParameterTable where
  toList : List Parameter
  nodup_names : (toList.map (·.name)).Nodup
  nodup_fields : (toList.map (·.field)).Nodup

namespace ParameterTable

def empty : ParameterTable := ⟨[], List.nodup_nil, List.nodup_nil⟩

theorem nodup_snoc {f : Parameter → String} {ps : List Parameter} {p : Parameter}
    (h : (ps.map f).Nodup) (new : f p ∉ ps.map f) : ((ps ++ [p]).map f).Nodup := by
  rw [List.map_append, List.nodup_append]
  refine ⟨h, by simp, ?_⟩
  intro a ha b hb e
  simp only [List.map_cons, List.map_nil, List.mem_singleton] at hb
  exact new (hb ▸ e ▸ ha)

/-- The table with one more parameter at its end. -/
def add (table : ParameterTable) (p : Parameter) : Except Failure ParameterTable :=
  if hn : p.name ∈ table.toList.map (·.name) then .error (.duplicateParameter p.name)
  else if hf : p.field ∈ table.toList.map (·.field) then .error (.duplicateField p.field)
  else .ok ⟨table.toList ++ [p], nodup_snoc table.nodup_names hn, nodup_snoc table.nodup_fields hf⟩

/-- The table with further parameters at its end. -/
def extend (table : ParameterTable) (ps : List Parameter) : Except Failure ParameterTable :=
  ps.foldlM add table

def ofList (ps : List Parameter) : Except Failure ParameterTable := empty.extend ps

def size (table : ParameterTable) : Nat := table.toList.length

def names (table : ParameterTable) : List String := table.toList.map (·.name)

def fields (table : ParameterTable) : List String := table.toList.map (·.field)

def find? (table : ParameterTable) (name : String) : Option Parameter :=
  table.toList.find? (·.name == name)

def get (table : ParameterTable) (name : String) : Except Failure Parameter :=
  match table.find? name with
  | some p => .ok p
  | none => .error (.unknownKey name)

def contains (table : ParameterTable) (name : String) : Bool := (table.find? name).isSome

/-- Each parameter under the field that it sets. -/
def byField (table : ParameterTable) : List (String × Parameter) :=
  table.toList.map fun p => (p.field, p)

/-- The name under which requests know a field. -/
def externalName (table : ParameterTable) (field : String) : String :=
  match table.byField.lookup field with
  | some p => p.name
  | none => field

end ParameterTable
end QueryBinding
