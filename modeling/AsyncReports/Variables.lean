import AsyncReports.Json
import AsyncReports.Text
import AsyncReports.Decimal.Numeral

set_option autoImplicit false

/-!
# Variables

The variables of a process name the environment that settings are loaded for, and they may set single settings:
`INSIGHTS_JOBS__SECTION__KEY` in any letter case.
-/

namespace AsyncReports

abbrev Variables := List (String × String)

namespace Variables

/-- The name of the environment that settings are loaded for. -/
def environment (vars : Variables) : String :=
  ((vars.lookup "INSIGHTS_JOBS_ENV").or (vars.lookup "APP_ENV")).getD "development"

/-- What the name of a setting starts with, in lower case. -/
def settingsStart : List Char := "insights_jobs__".toList

/-- Two underscores separate the parts of a path. -/
def path : List Char → List Char
  | '_' :: '_' :: rest => '.' :: path rest
  | c :: rest => c :: path rest
  | [] => []

/-- The value that a variable spells: a truth value, a whole number of 64 bits, a number, or a text. -/
def value (text : String) : Json :=
  match Text.lower text with
  | "true" => .bool true
  | "false" => .bool false
  | _ =>
    match Decimal.readWhole? text.toList, Decimal.readFloat? text.toList with
    | some n, x => if Width.holdsSigned 64 n then .int n else (x.map Json.float).getD (.text text)
    | none, some x => .float x
    | none, none => .text text

/-- The setting that a variable stands for, its path spelled with points. -/
def setting? (v : String × String) : Option (String × Json) :=
  let name := v.1.toList.map Text.lowerChar
  if settingsStart.isPrefixOf name then
    some (String.ofList (path (name.drop settingsStart.length)), value v.2)
  else none

def settings (vars : Variables) : List (String × Json) := vars.filterMap setting?

end Variables

end AsyncReports
