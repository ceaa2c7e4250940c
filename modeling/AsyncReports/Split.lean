import AsyncReports.Job

set_option autoImplicit false

/-!
# Splitting

A job that keeps failing is usually too much for the remote side. A cheaper report, the probe, lists the keys that
occur in the window, and the job is replaced by a group with one report job per key. The keys are texts in the
order of their code points, each once; a number counts as the text of its document form, so a number and a text
can be the same key.
-/

namespace AsyncReports

namespace Split

/-- The parameters of the probe: those of the job, but for one column, at the level to split by, without time
steps, and looking back far enough that nothing that counts into the interval is missed. -/
def probe (params : Params) (interval : Interval) (settings : SplitSettings) : Params :=
  { params with
    level := settings.level
    fields := [settings.level.idField]
    increment := none
    window := some ⟨(interval.start.earlier? settings.lookbackDays).getD .first, interval.stop⟩ }

/-- The key that a row's value names, if it is a text or a number. -/
def key? : Json → Option String
  | .text s => some s
  | .int n => some (toString n)
  | .float x => some (Json.writeFloat x)
  | _ => none

/-- Inserts a key into sorted keys unless it is there. -/
def insertKey (key : String) : List String → List String
  | [] => [key]
  | other :: rest =>
    if key = other then other :: rest
    else if key < other then key :: other :: rest
    else other :: insertKey key rest

def keys (rows : List Row) (level : Level) : List String :=
  (rows.filterMap fun row => (row.lookup level.idField).bind key?).foldr insertKey []

def skippedEntry (level : Level) (value : Json) : LogEntry :=
  { level := .debug
    message := "Skipping non-scalar partition key"
    fields := [("field", .string level.idField), ("value", .shown value.write)] }

/-- What is reported about rows whose value names no key. -/
def skipped (rows : List Row) (level : Level) : List LogEntry :=
  (rows.filterMap (·.lookup level.idField)).filter (fun value => (key? value).isNone)
    |>.map (skippedEntry level)

def partitionsEntry (keys : List String) (level : Level) (interval : Interval) : LogEntry :=
  { level := .info
    message := "Got " ++ toString keys.length ++ " " ++ level.text ++ " partitions for period " ++
      interval.text
    fields :=
      [("num", .number keys.length), ("period", .shown interval.text), ("level", .shown level.text),
        ("keys", .shown (Text.quotedSet keys))] }

/-- The part of a job that belongs to one key. -/
def part (job : ReportJob) (key : String) : ReportJob :=
  .new ⟨job.settings.splitter.level, key⟩ job.params job.interval job.settings

/-- The group that replaces a job. -/
def group (job : ReportJob) (keys : List String) : Job :=
  .group { interval := job.interval, settings := job.settings } (keys.map fun key => .report (part job key))

end Split

variable {σ : Type}

/-- The group that a report job is split into. -/
def ReportJob.split (service : Service σ) (job : ReportJob) : Act σ (Except JobError Job) := do
  let settings := job.settings.splitter
  match ← service.queried job.edge (Split.probe job.params job.interval settings) with
  | .error cause => pure (.error (.service cause))
  | .ok rows =>
    let keys := Split.keys rows settings.level
    Act.log (Split.skipped rows settings.level ++ [Split.partitionsEntry keys settings.level job.interval])
    pure (.ok (Split.group job keys))

/-- A group cannot be split. -/
def Job.split (service : Service σ) : Job → Act σ (Except JobError Job)
  | .report job => job.split service
  | .group g members => pure (.error (.unsplittable (Job.group g members).label))

end AsyncReports
