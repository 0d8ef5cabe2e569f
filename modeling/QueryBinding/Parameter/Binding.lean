import QueryBinding.Parameter
/-!
Binding: the typed values of the parameters that a request gives. Parameters that the table does
not have are ignored, and parameters that are not given, or given without a value, bind nothing.
-/
namespace QueryBinding

/-- The values of one request parameter as they arrive. -/
inductive RawValue where
  | one (text : String)
  | many (texts : List String)
deriving DecidableEq, Repr

def RawValue.texts : RawValue → List String
  | one s => [s]
  | many texts => texts

/-- The values of a parameter that a value stands for: a text is one value, and anything else is
gone through. -/
def RawValue.ofDatum (d : Datum) : Except Failure RawValue :=
  match d, d.elements? with
  | .text s, _ => .ok (.one s)
  | _, some items => .ok (.many (items.map Datum.display))
  | d, none => .error (.misuse (.notIterable d.typeName))

/-- Every parameter of a request with all its values. -/
abbrev RawParameters := List (String × List String)

namespace RawParameters

/-- A value by itself counts as a parameter given once; of equal names the last one counts. -/
def normalize (pairs : List (String × RawValue)) : RawParameters :=
  Entries.putAll [] (pairs.map fun (name, value) => (name, value.texts))

/-- The parameters of a request whose values are not yet known to be texts. -/
def ofEntries (entries : List (String × Datum)) : Except Failure RawParameters := do
  return normalize (← entries.mapM fun (name, d) => return (name, ← RawValue.ofDatum d))

/-- The parameters of a request, which must be given by name. -/
def ofDatum : Datum → Except Failure RawParameters
  | .object entries => ofEntries entries
  | d => .error (.noAttribute d.typeName "items")

/-- The values of a parameter, none if it is absent. -/
def values (raw : RawParameters) (name : String) : List String := (raw.lookup name).getD []

end RawParameters

/-- The fields that a request sets, in the order of the parameters. -/
def Parameter.bindAll (parameters : List Parameter) (raw : RawParameters) :
    Except Failure (List (String × Datum)) :=
  match parameters with
  | [] => .ok []
  | p :: ps =>
    match raw.values p.name with
    | [] => bindAll ps raw
    | texts => do
      let value ← p.convert texts
      return (p.field, value) :: (← bindAll ps raw)

/-- The fields that a request sets, in the order of the table. -/
def ParameterTable.bind (table : ParameterTable) (raw : RawParameters) :
    Except Failure (List (String × Datum)) :=
  Parameter.bindAll table.toList raw

end QueryBinding
