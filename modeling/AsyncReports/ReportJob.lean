import AsyncReports.Batch
import AsyncReports.JobError

set_option autoImplicit false

/-!
# Report jobs

A report job is one report on one entity over one interval, with what is known here of its run. It may be started
once per attempt and restarted once it has failed. Its status is read at once, or by a check that is queued in a
batch and answered later. An answer is always taken in by `Progress.observe`, which does nothing once the run has
ended. The answer to a check that was queued in an earlier attempt is taken in like any other.
-/

namespace AsyncReports

/-- What is known here of a run. -/
structure Progress where
  status : Status := .notStarted
  run : Option Run := none
  startedAt : Option Nat := none
  /-- When a status check first saw the run ended, which is later than its end. -/
  finishedAt : Option Nat := none
  failed : Bool := false

structure ReportJob where
  interval : Interval
  edge : Edge
  params : Params
  settings : Settings := {}
  /-- Counts from one and grows with every restart. -/
  attempt : Nat := 1
  progress : Progress := {}
  /-- Where the answer to a check finds the job after the job has changed hands. -/
  handle : Option Nat := none

/-- How a call left a job, or several, and whether it succeeded. -/
abbrev Outcome (α : Type) := α × Except JobError Unit

namespace Progress

/-- Takes in a status document. -/
def observe (now : Nat) (run : Run) (p : Progress) : Progress :=
  if p.finishedAt.isSome then p
  else
    match p.status.step? (.observed run.status) with
    | none => { p with run := some run }
    | some next =>
      if next = .completed then { p with run := some run, status := next, finishedAt := some now }
      else if next.isFailure then
        { p with run := some run, status := next, finishedAt := some now, failed := true }
      else { p with run := some run, status := next }

def progressEntry (label : String) (run : Run) : LogEntry :=
  { level := .info
    message := label ++ " is " ++ Decimal.Layout.sentence.write run.percent ++ "% complete (" ++
      run.status.text ++ ")"
    fields := [("job", .shown label), ("percent", .float run.percent), ("status", .shown run.status.text)] }

def ignoredEntry (label refusal : String) : LogEntry :=
  { level := .warn
    message := "Ignoring status update"
    fields := [("job", .shown label), ("error", .shown refusal)] }

def failedEntry (label : String) (status : Status) (seconds : Nat) : LogEntry :=
  { level := .info
    message := label ++ " has status " ++ status.text ++ " after " ++ toString seconds ++ " seconds."
    fields :=
      [("job", .shown label), ("status", .shown status.text), ("elapsed_seconds", .number seconds)] }

/-- What `observe` reports. -/
def observed (label : String) (now : Nat) (run : Run) (p : Progress) : List LogEntry :=
  if p.finishedAt.isSome then []
  else
    match p.status.step? (.observed run.status) with
    | none => [progressEntry label run, ignoredEntry label (p.status.refusal (.observed run.status))]
    | some next =>
      if next.isFailure then
        [progressEntry label run, failedEntry label next (now - p.startedAt.getD now)]
      else [progressEntry label run]

end Progress

namespace ReportJob

variable {σ : Type}

/-- A job over an interval; the window sent with its requests is always that of the interval. -/
def new (edge : Edge) (params : Params) (interval : Interval) (settings : Settings) : ReportJob :=
  { interval, edge, params := { params with window := some interval.window }, settings }

def label (job : ReportJob) : String :=
  let id := match job.progress.run with
    | some run => run.id
    | none => "<None>"
  "ReportJob(id=" ++ id ++ ", " ++ job.edge.text ++ ", time_range=" ++ job.interval.text ++
    ", breakdowns=" ++ Text.quotedList job.params.breakdowns ++ ")"

def completed (job : ReportJob) : Bool := job.progress.finishedAt.isSome

def failed (job : ReportJob) : Bool := job.progress.failed

/-- The time since the start; it stands still once the job has finished. -/
def elapsed (now : Nat) (job : ReportJob) : Option Nat :=
  job.progress.startedAt.map fun start => job.progress.finishedAt.getD now - start

def submittedEntry (job : ReportJob) (run : Run) : LogEntry :=
  { level := .info
    message := "Created report run " ++ run.id ++ " to sync insights " ++ job.interval.text ++ " for " ++
      job.edge.text
    fields :=
      [("job_id", .shown run.id), ("time_range", .shown job.interval.text),
        ("breakdowns", .shown (Text.quotedList job.params.breakdowns)),
        ("edge_object", .shown job.edge.text), ("attempt", .number job.attempt)] }

def restartedEntry (job : ReportJob) : LogEntry :=
  { level := .info
    message := job.label ++ ": restarted"
    fields := [("job", .shown job.label), ("attempt", .number job.attempt)] }

def finishedEntry (run : Run) : LogEntry :=
  { level := .info
    message := "Report run " ++ run.id ++ " is already finished"
    fields := [("percent", .float run.percent), ("status", .shown run.status.text)] }

def undecodedEntry (label : String) (cause : DecodeError) : LogEntry :=
  { level := .warn
    message := "Unparseable status response, keeping previous state"
    fields := [("job", .shown label), ("error", .shown cause.message)] }

def unansweredEntry (label : String) (cause : ServiceError) : LogEntry :=
  { level := .info
    message := "Request failed with response"
    fields := [("job", .shown label), ("error", .shown cause.message)] }

/-- Submits the report. A job that already has a run cannot be started. -/
def start (service : Service σ) (job : ReportJob) : Act σ (Outcome ReportJob) :=
  match job.progress.run, job.progress.status.step? .start with
  | none, some next => do
    match ← service.submitted job.edge job.params with
    | .error cause => pure (job, .error (.service cause))
    | .ok run =>
      let now ← Act.now
      Act.log [job.submittedEntry run]
      pure ({ job with progress := { job.progress with
        status := next, run := some run, startedAt := some now } }, .ok ())
  | _, _ => pure (job, .error (.misuse job.label .startTwice))

/-- The job cleared for another attempt, if it has failed. -/
def reset? (job : ReportJob) : Option ReportJob :=
  if job.progress.run.isSome && job.progress.failed then
    (job.progress.status.step? .reset).map fun status =>
      { job with progress := { status }, attempt := job.attempt + 1 }
  else none

/-- Submits a failed report again. -/
def restart (service : Service σ) (job : ReportJob) : Act σ (Outcome ReportJob) :=
  match job.reset? with
  | none => pure (job, .error (.misuse job.label .restartUnfailed))
  | some fresh => do
    let (started, result) ← fresh.start service
    match result with
    | .error cause => pure (started, .error cause)
    | .ok () =>
      Act.log [started.restartedEntry]
      pure (started, .ok ())

/-- Takes in a run that was read. -/
def observe (label : String) (run : Run) (job : ReportJob) : Act σ ReportJob := do
  let now ← Act.now
  Act.log (job.progress.observed label now run)
  pure { job with progress := job.progress.observe now run }

/-- Takes in the answer to a check that was queued under a label. -/
def receive (label : String) (answer : Answer Json) (job : ReportJob) : Act σ ReportJob :=
  match answer with
  | .error cause => do
    Act.log [unansweredEntry label cause]
    pure job
  | .ok document =>
    match Run.decode document with
    | .error cause => do
      Act.log [undecodedEntry label cause]
      pure job
    | .ok run => job.observe label run

/-- Whether there is a status to ask for. -/
inductive Pending
  | unstarted
  | finished (run : Run)
  | running (run : Run)

def pending (job : ReportJob) : Pending :=
  match job.progress.run, job.progress.finishedAt with
  | none, _ => .unstarted
  | some run, some _ => .finished run
  | some run, none => .running run

/-- Reads the status at once. -/
def update (service : Service σ) (job : ReportJob) : Act σ (Outcome ReportJob) :=
  match job.pending with
  | .unstarted => pure (job, .error (.misuse job.label .updateUnstarted))
  | .finished run => do
    Act.log [finishedEntry run]
    pure (job, .ok ())
  | .running run => do
    match ← service.statusOf run.id with
    | .error cause => pure (job, .error (.service cause))
    | .ok latest =>
      let job ← job.observe job.label latest
      pure (job, .ok ())

/-- The check to queue for the job, if its run is not known to have ended. The answer belongs to whatever `owner`
makes of the job's label. -/
def check {τ : Type} (owner : String → τ) (job : ReportJob) : Act σ (Outcome (Batch τ)) :=
  match job.pending with
  | .unstarted => pure ([], .error (.misuse job.label .updateUnstarted))
  | .finished run => do
    Act.log [finishedEntry run]
    pure ([], .ok ())
  | .running run => pure ([⟨run.id, owner job.label⟩], .ok ())

/-- The rows of a finished job. Nothing is asked about the end of the run: rows can be read of any run that is
not known to have failed. -/
def result (service : Service σ) (job : ReportJob) : Act σ (Except JobError (List (Answer Row))) :=
  match job.progress.run, job.progress.failed with
  | some run, false => do
    let rows ← service.rowsOf run job.settings.results.pageSize
    pure (.ok rows)
  | _, _ => pure (.error (.misuse job.label .resultMissing))

end ReportJob

end AsyncReports
