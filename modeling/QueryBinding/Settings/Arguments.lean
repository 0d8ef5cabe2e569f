import QueryBinding.Failure
/-!
Settings among the arguments of a command line. A setting is written `--key value` or
`--key=value`; whatever else stands there belongs to no setting.
-/
namespace QueryBinding

/-- What the arguments of a command line hold, in order. -/
structure ArgumentSettings where
  /-- The keys with their values. -/
  entries : List (String × String) := []
  /-- The arguments that belong to no setting. -/
  unknown : List String := []
deriving DecidableEq, Repr

namespace ArgumentSettings

/-- The mark before a key. -/
def mark : String := "--"

/-- The key that an argument names, and the value after its equals sign, if it has one. -/
def named? (keys : List String) (argument : String) : Option (String × Option String) :=
  let cs := argument.toList
  let (name, rest) := (cs.takeWhile (· ≠ '='), cs.dropWhile (· ≠ '='))
  (keys.find? fun key => mark ++ key == String.ofList name).map fun key =>
    match rest with
    | [] => (key, none)
    | _ :: value => (key, some (String.ofList value))

/-- Whether characters are digits with at most one point before the last of them. -/
def isUnsigned (cs : List Char) : Bool :=
  match cs.dropWhile Char.isDigit with
  | [] => !cs.isEmpty
  | '.' :: fraction => !fraction.isEmpty && fraction.all Char.isDigit
  | _ => false

/-- Whether an argument can be a value: it begins with no mark, or it is a negative numeral or
holds a blank. -/
def isValue (argument : String) : Bool :=
  match argument.toList with
  | '-' :: cs => cs.isEmpty || isUnsigned cs || ' ' ∈ cs
  | _ => true

/-- An entry before what follows it. -/
def entered (key value : String) (settings : ArgumentSettings) : ArgumentSettings :=
  { settings with entries := (key, value) :: settings.entries }

/-- An argument that belongs to no setting, before what follows it. -/
def passed (argument : String) (settings : ArgumentSettings) : ArgumentSettings :=
  { settings with unknown := argument :: settings.unknown }

/-- What arguments hold of the settings with the given keys. -/
def of (keys : List String) : List String → Except SourceFault ArgumentSettings
  | [] => .ok {}
  | [argument] =>
    match named? keys argument with
    | none => .ok (passed argument {})
    | some (key, some value) => .ok (entered key value {})
    | some (key, none) => .error (.missingValue (mark ++ key))
  | argument :: value :: rest =>
    match named? keys argument with
    | none => (of keys (value :: rest)).map (passed argument)
    | some (key, some given) => (of keys (value :: rest)).map (entered key given)
    | some (key, none) =>
      if isValue value then (of keys rest).map (entered key value)
      else .error (.missingValue (mark ++ key))

/-- The entries of arguments that all belong to settings. -/
def entries? (keys : List String) (arguments : List String) :
    Except SourceFault (List (String × String)) := do
  let settings ← of keys arguments
  if settings.unknown.isEmpty then return settings.entries
  else throw (.unknownArguments settings.unknown)

example : (entries? ["level", "limit"] ["--level=a", "--limit", "-5"]).toOption =
    some [("level", "a"), ("limit", "-5")] := by decide +kernel

example : (entries? ["level", "limit"] ["--level", "--limit"]).toOption = none := by
  decide +kernel

end ArgumentSettings
end QueryBinding
