import QueryBinding.Validation.Report
/-!
Causes of failure, each with its wording: why a value or a request was not accepted, and why
settings could not be looked for.
-/
namespace QueryBinding

/-- Why a value was not accepted. -/
inductive Reason where
  | flagWord
  | integer
  | moment
  | sortOrder
  | sortCriteria
  | texts
  | variableFormat
  | variableOperator (word : String)
  | fault (fault : Fault)
deriving DecidableEq, Repr

def Reason.message : Reason → String
  | flagWord => "expected 'true' or 'false'"
  | integer => "expected an integer"
  | moment => "expected an ISO-8601 date-time"
  | sortOrder => "expected 'asc' or 'desc'"
  | sortCriteria => "expected a list of sort criteria"
  | texts => "expected a string or a list of strings"
  | variableFormat => "variable query parameter has to have format KEY_OPERATOR_VALUE"
  | variableOperator word => "unknown variable operator '" ++ word ++ "'"
  | fault f => f.message

/-- Why a request as a whole was not accepted. -/
inductive RequestFault where
  | unpairedSorting
  | limitExceeded (limit : Int)
  | correlationId (text : String)
  | other (text : String)
deriving DecidableEq, Repr

def RequestFault.message : RequestFault → String
  | unpairedSorting => "Only a single sorting parameter specified. sortBy and sortOrder required"
  | limitExceeded limit =>
    "Max results limit of " ++ (Datum.number limit).display ++ " exceeded"
  | correlationId text => "Invalid correlation id '" ++ text ++ "'"
  | other text => text

/-- Faults of the sources that settings come from: environment variables without a name, and
command-line arguments that cannot be read. -/
inductive SourceFault where
  /-- A key and what goes before it make up no name of a variable. -/
  | variableName (key : String)
  /-- What should be the arguments of a command line is no list. -/
  | notArguments (type : String)
  /-- Some arguments belong to no setting. -/
  | unknownArguments (arguments : List String)
  /-- No value follows an argument that needs one. -/
  | missingValue (argument : String)
deriving DecidableEq, Repr

namespace SourceFault

/-- A fault of command-line arguments in words. -/
def argumentMessage (fault : String) : String := "error parsing CLI: " ++ fault

def message : SourceFault → String
  | variableName key =>
    "error getting value for field \"" ++ key ++ "\" from source \"EnvSettingsSource\""
  | notArguments type =>
    "cli_parse_args must be a list or tuple of strings, received <class '" ++ type ++ "'>"
  | unknownArguments arguments =>
    argumentMessage ("unrecognized arguments: " ++ String.intercalate " " arguments)
  | missingValue argument =>
    argumentMessage ("argument " ++ argument ++ ": expected one argument")

end SourceFault

end QueryBinding
