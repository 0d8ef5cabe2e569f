import QueryBinding.Failure
import QueryBinding.Validation.FieldType
/-!
Records: a fixed list of named, typed fields. A field may admit null, and a field with a default
may be left out.
-/
namespace QueryBinding

open Reading

structure Field where
  name : String
  type : FieldType
  nullable : Bool := true
  /-- The value of a field that is left out; without one the field is required. -/
  default : Option Datum := some .null
deriving Repr

namespace Field

def read (field : Field) (d : Datum) : Reading Datum :=
  if field.nullable && d.isNull then .ok .null else field.type.read d

/-- The field's name and value, if `whole` has an entry for it. -/
def readFrom (whole : Datum) (field : Field) : Reading (Option (String × Datum)) :=
  inside (.name field.name) <|
    match whole.get? field.name with
    | some d => (field.read d).map fun value => some (field.name, value)
    | none => if field.default.isSome then .ok none else refuse .missing whole

/-- The values of the fields that `whole` has an entry for. -/
def readGiven (fields : List Field) (whole : Datum) : Reading (List (String × Datum)) :=
  (gather (readFrom whole) fields).map fun given => given.filterMap id

/-- The value of every field, by default where none is given. -/
def complete (fields : List Field) (given : List (String × Datum)) : List (String × Datum) :=
  fields.map fun field =>
    (field.name, (given.lookup field.name).getD (field.default.getD .null))

/-- The issues of an object's entries whose keys are not among `names`. -/
def unexpected (names : List String) (entries : List (String × Datum)) : List Issue :=
  (entries.filter fun (key, _) => !names.contains key).map
    fun (key, d) => ⟨[.name key], .unexpected, d⟩

end Field

/-- The values of all fields of a named kind of record. -/
structure Record where
  type : String
  fields : List (String × Datum)
deriving Repr

structure RecordType where
  name : String
  fields : List Field
deriving Repr

/-- Reads an object, or anything else that shows its attributes as one; other attributes do not
matter. -/
def RecordType.read (type : RecordType) : Datum → Reading Record
  | .object entries =>
    (Field.readGiven type.fields (.object entries)).map
      fun given => ⟨type.name, Field.complete type.fields given⟩
  | d => refuse .noAttributes d

/-- The record that a value describes. -/
def RecordType.construct (type : RecordType) (d : Datum) : Except Failure Record :=
  Failure.ofReading type.name (type.read d)

end QueryBinding
