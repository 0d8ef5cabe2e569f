import QueryBinding.Converter
import QueryBinding.Entries
/-!
A registry of converters by kind. Registering a kind again replaces its converter.
-/
namespace QueryBinding

structure ConverterRegistry where
  entries : List (String × Converter)

namespace ConverterRegistry

def empty : ConverterRegistry := ⟨[]⟩

def register (registry : ConverterRegistry) (kind : String) (converter : Converter) :
    ConverterRegistry :=
  ⟨Entries.put kind converter registry.entries⟩

def get (registry : ConverterRegistry) (kind : String) : Except Failure Converter :=
  match registry.entries.lookup kind with
  | some converter => .ok converter
  | none => .error (.unknownKey kind)

def kinds (registry : ConverterRegistry) : List String := Entries.keys registry.entries

def standard : ConverterRegistry :=
  [Converter.string, .boolean, .integer, .date, .stringList, .stringSet, .variableList].foldl
    (fun registry converter => registry.register converter.kind converter) empty

/-- Converts one text with the converter of a kind. -/
def convert (registry : ConverterRegistry) (kind : String) (s : String) : Except Failure Datum := do
  (← registry.get kind).convert s

/-- Converts all texts of a repeated parameter with the converter of a kind. -/
def convertAll (registry : ConverterRegistry) (kind : String) (texts : List String) :
    Except Failure Datum := do
  (← registry.get kind).convertAll texts

end ConverterRegistry
end QueryBinding
