import QueryBinding.Validation.Issue
/-!
Reports of issues: a line that counts them, and below it where each lies, what is wrong, and the
text of the value in at most fifty bytes.
-/
namespace QueryBinding

/-- The longest front of a text that has at most `limit` bytes. -/
def frontBytes (limit : Nat) : List Char → List Char
  | [] => []
  | c :: cs => if c.utf8Size ≤ limit then c :: frontBytes (limit - c.utf8Size) cs else []

/-- A text of more than fifty bytes without its middle. -/
def abbreviated (s : String) : String :=
  if s.utf8ByteSize ≤ 50 then s
  else
    let back := (frontBytes 24 s.toList.reverse).reverse
    String.ofList (frontBytes 25 s.toList) ++ "..." ++ String.ofList back

def PathStep.text : PathStep → String
  | .name s => s
  | .index i => (Datum.number i).display

/-- Where the kinds of faults are explained. -/
def faultSite : String := "https:" ++ "//errors.pydantic.dev/2.14/v/"

/-- What is wrong with a value, and the value. -/
def Issue.report (issue : Issue) : String :=
  let place :=
    if issue.path.isEmpty then ""
    else String.intercalate "." (issue.path.map PathStep.text) ++ "\n"
  place ++ "  " ++ issue.fault.message ++ " [type=" ++ issue.fault.code ++ ", input_value=" ++
    abbreviated issue.input.literal ++ ", input_type=" ++ issue.input.typeName ++
    "]\n    For further information visit " ++ faultSite ++ issue.fault.code

namespace Issues

/-- The number of issues of a value that should be a `subject`. -/
def summary (subject : String) (issues : Issues) : String :=
  (Datum.number issues.toList.length).display ++ " validation error" ++
    (if issues.rest.isEmpty then "" else "s") ++ " for " ++ subject

/-- The number of issues and each of them. -/
def report (subject : String) (issues : Issues) : String :=
  String.intercalate "\n" (issues.summary subject :: issues.toList.map Issue.report)

end Issues
end QueryBinding
