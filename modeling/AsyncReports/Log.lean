import AsyncReports.Decimal.Layout

set_option autoImplicit false

/-!
# Log entries

What is reported along the way: a level, a sentence, and fields for machines. A field that holds a rendered text
is kept apart from a plain string, since a console quotes the latter.
-/

namespace AsyncReports

inductive LogLevel
  | error
  | warn
  | info
  | debug
  | trace
deriving DecidableEq

namespace LogLevel

def text : LogLevel → String
  | .error => "ERROR"
  | .warn => "WARN"
  | .info => "INFO"
  | .debug => "DEBUG"
  | .trace => "TRACE"

/-- A more talkative level has a greater rank. -/
def rank : LogLevel → Nat
  | .error => 1
  | .warn => 2
  | .info => 3
  | .debug => 4
  | .trace => 5

end LogLevel

inductive LogValue
  /-- A text that was rendered for the log. -/
  | shown (text : String)
  | string (text : String)
  | number (n : Int)
  | float (x : Float)
  | flag (b : Bool)

/-- The value as it stands in a log line, strings unquoted. -/
def LogValue.text : LogValue → String
  | .shown s => s
  | .string s => s
  | .number n => toString n
  | .float x => Decimal.Layout.field.write x
  | .flag b => if b then "true" else "false"

structure LogEntry where
  level : LogLevel
  message : String
  fields : List (String × LogValue) := []
  /-- Fields that belong to the entry without being shown: its time, or one that has no value. -/
  hidden : List String := []

namespace LogEntry

/-- The message is a field as well. -/
def hasField (name : String) (e : LogEntry) : Bool :=
  name = "message" || (e.fields.lookup name).isSome || e.hidden.contains name

/-- An entry about what was done to a job. -/
def jobOperation (operation job : String) (attempt : Nat) (status : String) (details : Option String) :
    LogEntry :=
  { level := .info
    message := "📋 JOB_OPERATION"
    fields :=
      [("operation", .shown operation), ("job", .shown job), ("attempt", .number attempt),
        ("status", .shown status)] ++ (details.map fun s => ("details", LogValue.string s)).toList
    hidden := if details.isSome then ["timestamp"] else ["details", "timestamp"] }

end LogEntry

end AsyncReports
