import AsyncReports.ReportJob

set_option autoImplicit false

/-!
# Listings

A report job with all its fields on one line, for whoever looks into a running program. Of a time only its
presence is shown.
-/

namespace AsyncReports

/-- A record's name and its fields. -/
def listing (name : String) (fields : List (String × String)) : String :=
  name ++ " \x7b " ++ String.intercalate ", " (fields.map fun field => field.1 ++ ": " ++ field.2) ++ " \x7d"

def listOption : Option String → String
  | none => "None"
  | some s => "Some(" ++ s ++ ")"

def Interval.listing (i : Interval) : String :=
  AsyncReports.listing "DateInterval" [("start", i.start.text), ("end", i.stop.text)]

def Edge.listing (e : Edge) : String :=
  AsyncReports.listing "EdgeObject" [("level", e.level.word), ("id", Text.quoted e.id)]

def Run.listing (r : Run) : String :=
  AsyncReports.listing "ReportRun"
    [("report_run_id", Text.quoted r.id), ("async_status", r.status.word),
      ("async_percent_completion", Decimal.Layout.field.write r.percent),
      ("date_start", listOption (r.dateStart.map Date.text)),
      ("date_stop", listOption (r.dateStop.map Date.text))]

def Progress.listing (p : Progress) : String :=
  AsyncReports.listing "ReportJobState"
    [("status", p.status.word), ("report_run", listOption (p.run.map Run.listing)),
      ("start_time", listOption (p.startedAt.map fun _ => "<time>")),
      ("finish_time", listOption (p.finishedAt.map fun _ => "<time>")),
      ("failed", if p.failed then "true" else "false")]

def ReportJob.listing (job : ReportJob) : String :=
  AsyncReports.listing "ReportJob"
    [("interval", job.interval.listing), ("edge_object", job.edge.listing),
      ("attempt_number", toString job.attempt), ("state", job.progress.listing)]

end AsyncReports
