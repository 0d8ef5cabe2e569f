import QueryBinding.Failure
import QueryBinding.Text.Case
/-!
Log levels by name, in any case, as numbers that grow with their weight.
-/
namespace QueryBinding

/-- What the name of a level stands for: a number, or one of two things that have names among those
of the levels but are none, the layout of log lines and the table of the styles of layouts. -/
inductive LogLevel where
  | number (level : Nat)
  | layout (pattern : String)
  | styles
deriving DecidableEq, Repr

namespace LogLevel

/-- The names, and what they stand for. -/
def named : List (String × LogLevel) :=
  [("NOTSET", .number 0), ("DEBUG", .number 10), ("INFO", .number 20), ("WARN", .number 30),
    ("WARNING", .number 30), ("ERROR", .number 40), ("CRITICAL", .number 50),
    ("FATAL", .number 50), ("BASIC_FORMAT", .layout "%(levelname)s:%(name)s:%(message)s"),
    ("_STYLES", .styles)]

def ofName (name : String) : Except Failure LogLevel :=
  match named.lookup (Text.upper name) with
  | some level => .ok level
  | none => .error (.unknownLogLevel (Text.upper name))

/-- The level that a value names; only a text can. -/
def ofDatum : Datum → Except Failure LogLevel
  | .text name => ofName name
  | d => .error (.noAttribute d.typeName "upper")

end LogLevel
end QueryBinding
