import QueryBinding.Datum.Portion
import QueryBinding.Settings.Arguments
import QueryBinding.Text.Pieces
import QueryBinding.Text.Case
/-!
Where settings are looked for: among given values, on a command line and in the environment. Given
values are found whatever the case of their names. Given values of certain names are no settings,
but tell how the others are to be found.
-/
namespace QueryBinding

structure SettingsSource where
  /-- The given values that are settings. -/
  values : List (String × Datum)
  /-- The settings of a command line, in order. -/
  arguments : List (String × String) := []
  environment : List (String × String)
  /-- What the names of environment variables begin with. -/
  variablePrefix : String := "SIEVE_"
  /-- Whether the names of environment variables must be written as they are. -/
  caseSensitive : Bool := false
  /-- Whether empty environment variables count as absent. -/
  ignoresEmpty : Bool := false
  /-- The value of an environment variable that stands for null. -/
  nullWord : Option String := none
  /-- The value on a command line that stands for null. -/
  nullArgument : String := "null"
deriving Repr

namespace SettingsSource

/-! ### Options -/

def prefixOption : String := "_env_prefix"

/-- Tells to what the prefix belongs: to the keys, or only to other names of them. -/
def targetOption : String := "_env_prefix_target"

def caseOption : String := "_case_sensitive"

def emptyOption : String := "_env_ignore_empty"

def nullOption : String := "_env_parse_none_str"

/-- Tells into how many parts variables of compound settings are split, of which there are none. -/
def splitOption : String := "_env_nested_max_split"

/-- Names files with further settings, of which there are none. -/
def filesOption : String := "_env_file"

/-- Names directories with further settings, of which there are none. -/
def directoriesOption : String := "_secrets_dir"

/-- Gives the arguments of a command line. -/
def argumentsOption : String := "_cli_parse_args"

def nullArgumentOption : String := "_cli_parse_none_str"

/-- Gives sources that are ready, in the place of all others. -/
def readyOption : String := "_build_sources"

/-- Options without an effect on the settings that there are. -/
def idleOptions : List String :=
  ["_nested_model_default_partial_update", "_env_file_encoding", "_env_nested_delimiter",
    "_env_parse_enums", "_cli_prog_name", "_cli_settings_source", "_cli_hide_none_type",
    "_cli_avoid_json", "_cli_enforce_required", "_cli_use_class_docs_for_groups",
    "_cli_exit_on_error", "_cli_prefix", "_cli_flag_prefix_char", "_cli_implicit_flags",
    "_cli_ignore_unknown_args", "_cli_kebab_case", "_cli_shortcuts"]

def options : List String :=
  [prefixOption, targetOption, caseOption, emptyOption, nullOption, splitOption, filesOption,
    directoriesOption, argumentsOption, nullArgumentOption, readyOption] ++ idleOptions

/-- The name under which the settings know themselves. -/
def ownName : String := "__pydantic_self__"

/-- The value of an option; null counts as absent. -/
def option? (values : List (String × Datum)) (name : String) : Option Datum :=
  (values.lookup name).filter (!·.isNull)

/-- The value of an option that is a word; other values count as absent. -/
def wordOption? (values : List (String × Datum)) (name : String) : Option String :=
  match values.lookup name with
  | some (.text word) => some word
  | _ => none

/-- Fails if a value cannot be taken for sources that are ready; those that have no source in them
can be. -/
def checkReady (d : Datum) : Except Failure Unit :=
  match d.elements? with
  | none => .error (.misuse (.notUnpackable d.typeName))
  | some [sources, _] =>
    if sources.isTruthy then
      match sources.elements? with
      | none => .error (.misuse (.notIterable sources.typeName))
      | some items => items.forM fun item => .error (.misuse (.notCallable item.typeName))
    else .ok ()
  | some items => .error (.notPair items.length)

/-- Fails if the number of parts that variables are split into is none. -/
def checkSplit (values : List (String × Datum)) : Except Failure Unit :=
  match (option? values splitOption).filter fun d => d.isTruthy && !d.isNumeric with
  | some d => .error (.misuse (.notSubtractable d.typeName (Datum.number 1).typeName))
  | none => .ok ()

/-- The targets for which the prefix belongs to the keys. -/
def keyTargets : List String := ["variable", "all"]

/-- Whether the prefix belongs to the keys. -/
def hasPrefixedKeys (values : List (String × Datum)) : Bool :=
  (option? values targetOption).isNone ||
    (wordOption? values targetOption).any keyTargets.contains

/-- What is given as the prefix, or the prefix that there is. -/
def prefixOf (values : List (String × Datum)) (default : String) : Datum :=
  (option? values prefixOption).getD (.text default)

/-- Fails if a prefix has no length. -/
def checkPrefix (d : Datum) : Except Failure Unit :=
  if d.elements?.isSome then .ok () else .error (.misuse (.notSized d.typeName))

/-- The text before the keys in the names of environment variables. -/
def prefixText (keys : List String) (values : List (String × Datum)) :
    Datum → Except Failure String
  | .text s => .ok (if hasPrefixedKeys values then s else "")
  | _ =>
    if hasPrefixedKeys values then .error (.source (.variableName (keys.headD "")))
    else .ok ""

/-- Fails if a value is no path. -/
def checkPath : Datum → Except Failure Unit
  | .text _ => .ok ()
  | d => .error (.misuse (.notPath d.typeName))

/-- Fails if the value of an option is neither a path nor several of them. -/
def checkPaths (values : List (String × Datum)) (name : String) : Except Failure Unit :=
  match option? values name with
  | none | some (.text _) => .ok ()
  | some d =>
    match d.elements? with
    | some items => items.forM checkPath
    | none => .error (.misuse (.notIterable d.typeName))

/-- One argument of a command line; what counts as a no is an empty one. -/
def argumentText : Datum → Except Failure String
  | .text s => .ok s
  | d => if d.isTruthy then .error (.misuse (.notText d.typeName)) else .ok ""

/-- The arguments of the command line. Without a list of them there are none. -/
def argumentsOf (values : List (String × Datum)) : Except Failure (List String) :=
  match option? values argumentsOption with
  | none | some (.flag _) => .ok []
  | some (.list items) => items.mapM argumentText
  | some d =>
    if d.agrees (.flag false) then .ok []
    else .error (.source (.notArguments d.typeName))

/-- An argument with its key, if it has one, in lower case; a line break ends it then. -/
def loweredArgument (argument : String) : String :=
  match argument.toList with
  | '-' :: cs =>
    let isInKey (c : Char) : Bool := c ≠ '=' && !Text.isBlank c
    "-" ++ Text.lower (String.ofList (cs.takeWhile isInKey)) ++
      String.ofList ((cs.dropWhile isInKey).takeWhile (· ≠ '\n'))
  | _ => argument

/-- The source that given values and an environment make up for settings with the given keys. -/
def of (keys : List String) (values : List (String × Datum))
    (environment : List (String × String)) : Except Failure SettingsSource := do
  if (values.lookup ownName).isSome then
    throw (.misuse (.repeatedArgument "BaseSettings.__init__()" ownName))
  if let some ready := option? values readyOption then
    checkReady ready
    return { values := [], environment := [] }
  let plain : SettingsSource :=
    { values := values.filter fun (name, _) => !options.contains name, environment }
  let given := prefixOf values plain.variablePrefix
  checkSplit values
  checkPrefix given
  checkPaths values filesOption
  let arguments ← argumentsOf values
  let caseSensitive := (option? values caseOption).any (·.isTruthy)
  let written := if caseSensitive then arguments else arguments.map loweredArgument
  let entries ← (ArgumentSettings.entries? keys written).mapError Failure.source
  let variablePrefix ← prefixText keys values given
  checkPaths values directoriesOption
  return { plain with
    arguments := entries
    variablePrefix
    caseSensitive
    ignoresEmpty := (option? values emptyOption).any (·.isTruthy)
    nullWord := wordOption? values nullOption
    nullArgument := (wordOption? values nullArgumentOption).getD plain.nullArgument }

/-! ### Values -/

/-- The name of an environment variable as it is compared with others. -/
def compared (source : SettingsSource) (name : String) : String :=
  if source.caseSensitive then name else Text.lower name

/-- The value that the value of an environment variable stands for. -/
def ofVariable (source : SettingsSource) (value : String) : Datum :=
  if source.nullWord = some value then .null else .text value

/-- The value of the environment for a key; the last of two spellings counts. -/
def environmentValue? (source : SettingsSource) (key : String) : Option Datum :=
  let present := source.environment.filter fun (_, value) =>
    !(source.ignoresEmpty && value == "")
  let names := present.map fun (name, value) => (source.compared name, value)
  (names.reverse.lookup (source.compared (source.variablePrefix ++ key))).map source.ofVariable

/-- The value that a value on a command line stands for. -/
def ofArgument (source : SettingsSource) (value : String) : Datum :=
  if value = source.nullArgument then .null else .text value

/-- The value of the command line for a key; the last one counts. -/
def argumentValue? (source : SettingsSource) (key : String) : Option Datum :=
  (source.arguments.reverse.lookup key).map source.ofArgument

/-- The given value for a key; the first of two spellings counts. -/
def givenValue? (source : SettingsSource) (key : String) : Option Datum :=
  (source.values.map fun (name, d) => (Text.lower name, d)).lookup key

/-- The value for a key: that of the command line, or a given one, or that of the environment. -/
def value? (source : SettingsSource) (key : String) : Option Datum :=
  (source.argumentValue? key).or ((source.givenValue? key).or (source.environmentValue? key))

/-- The given values that belong to none of the keys. -/
def others (source : SettingsSource) (keys : List String) : List (String × Datum) :=
  source.values.filter fun (name, _) => !keys.contains (Text.lower name)

end SettingsSource
end QueryBinding
