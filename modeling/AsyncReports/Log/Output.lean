import AsyncReports.Log.Filter
import AsyncReports.Lifecycle
import AsyncReports.Variables

set_option autoImplicit false

/-!
# Log output

Entries go to the console, or to documents of one line each. The variables of the environment choose which, and
which entries pass: a filter that can be read, or else everything down to debug, or in production down to info.
-/

namespace AsyncReports

/-- An entry with the part of the program that made it. -/
structure SourcedEntry where
  source : String
  entry : LogEntry

namespace LogValue

def encode : LogValue → Json
  | .shown s => .text s
  | .string s => .text s
  | .number n => .int n
  | .float x => if x.isFinite then .float x else .null
  | .flag b => .bool b

/-- The value on the console. -/
def console : LogValue → String
  | .string s => Text.quoted s
  | value => value.text

end LogValue

namespace SourcedEntry

/-- The entry as a document, without its time. -/
def encode (e : SourcedEntry) : Json :=
  .object
    [("fields", .object (Json.sortFields
        (("message", .text e.entry.message) :: e.entry.fields.map fun field => (field.1, field.2.encode)))),
      ("level", .text e.entry.level.text),
      ("target", .text e.source)]

/-- The entry on the console, without its time. -/
def console (e : SourcedEntry) : String :=
  String.intercalate " "
    ((e.entry.level.text ++ " " ++ e.source ++ ": " ++ e.entry.message) ::
      e.entry.fields.map fun field => field.1 ++ "=" ++ field.2.console)

end SourcedEntry

/-- How a process logs. -/
structure LogSetup where
  environment : String
  filter : LogFilter
  /-- Entries are written as documents. -/
  documents : Bool

namespace LogSetup

def ofVariables (vars : Variables) : LogSetup :=
  let environment := vars.environment
  let usual : LogFilter := [{ threshold := if environment = "production" then 3 else 4 }]
  { environment
    filter := ((vars.lookup "RUST_LOG").bind LogFilter.ofText?).getD usual
    documents := match vars.lookup "INSIGHTS_JOBS_LOG_FORMAT" with
      | some format => format.map Char.toLower = "json"
      | none => false }

/-- What is reported first. -/
def opening (s : LogSetup) : SourcedEntry :=
  { source := "insights_jobs::logging"
    entry :=
      { level := .info
        message := "🔧 STRUCTURED LOGGING: Initialized"
        fields := [("environment", .shown s.environment), ("json", .flag s.documents)] } }

/-- The entries that pass. -/
def passed (s : LogSetup) (entries : List SourcedEntry) : List SourcedEntry :=
  entries.filter fun e => s.filter.passes e.source e.entry

end LogSetup

/-- What is reported about an accepted event. -/
def Status.stepEntry (status : Status) (event : Event) (next : Status) : SourcedEntry :=
  { source := "insights_jobs::state_machine::job_state_machine"
    entry :=
      { level := .debug
        message := "Job state transition resolved"
        fields :=
          [("from", .shown status.text), ("event", .string event.kind), ("to", .shown next.text)] } }

def LogEntry.ofJobs (e : LogEntry) : SourcedEntry := ⟨"insights_jobs::logging", e⟩

end AsyncReports
