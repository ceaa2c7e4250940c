import AsyncReports.ReportJob

set_option autoImplicit false

/-!
# Jobs and groups

A job is a report job or a group of jobs that is treated as one. A group has no run of its own: it is completed
when all its members are, and failed when one of them is. What it does, it does to its members in order, and it
stops at the first error; what was done before the error stays done.
-/

namespace AsyncReports

/-- What a group has besides its members. -/
structure Group where
  interval : Interval
  settings : Settings := {}
  /-- The greatest attempt of a member that a restart has seen. -/
  attempt : Nat := 1

inductive Job
  | report (job : ReportJob)
  | group (group : Group) (members : List Job)

namespace Job

variable {σ : Type}

def interval : Job → Interval
  | .report job => job.interval
  | .group g _ => g.interval

def key (job : Job) : String := job.interval.key

def attempt : Job → Nat
  | .report job => job.attempt
  | .group g _ => g.attempt

def label : Job → String
  | .report job => job.label
  | .group g members =>
    "JobGroup(key=" ++ g.interval.key ++ ", interval=" ++ g.interval.text ++ ", jobs=" ++
      toString members.length ++ ")"

mutual
def completed : Job → Bool
  | .report job => job.completed
  | .group _ members => allCompleted members

def allCompleted : List Job → Bool
  | [] => true
  | job :: rest => job.completed && allCompleted rest
end

mutual
def failed : Job → Bool
  | .report job => job.failed
  | .group _ members => anyFailed members

def anyFailed : List Job → Bool
  | [] => false
  | job :: rest => job.failed || anyFailed rest
end

mutual
/-- The report jobs of a job, from left to right. -/
def leaves : Job → List ReportJob
  | .report job => [job]
  | .group _ members => allLeaves members

def allLeaves : List Job → List ReportJob
  | [] => []
  | job :: rest => job.leaves ++ allLeaves rest
end

mutual
def start (service : Service σ) : Job → Act σ (Outcome Job)
  | .report job => do
    let (job, result) ← job.start service
    pure (.report job, result)
  | .group g members => do
    let (members, result) ← startAll service members
    pure (.group g members, result)

def startAll (service : Service σ) : List Job → Act σ (Outcome (List Job))
  | [] => pure ([], .ok ())
  | job :: rest => do
    let (job, result) ← start service job
    match result with
    | .error cause => pure (job :: rest, .error cause)
    | .ok () => do
      let (rest, result) ← startAll service rest
      pure (job :: rest, result)
end

def groupRestartedEntry (job : Job) : LogEntry :=
  { level := .info
    message := job.label ++ ": restarted failed jobs"
    fields := [("job", .shown job.label), ("attempt", .number job.attempt)] }

mutual
/-- Restarts what has failed; members that have not are left alone. -/
def restart (service : Service σ) : Job → Act σ (Outcome Job)
  | .report job => do
    let (job, result) ← job.restart service
    pure (.report job, result)
  | .group g members =>
    if anyFailed members then do
      let (members, attempt, result) ← restartFailed service g.attempt members
      let job := Job.group { g with attempt } members
      match result with
      | .error cause => pure (job, .error cause)
      | .ok () => do
        Act.log [job.groupRestartedEntry]
        pure (job, .ok ())
    else pure (.group g members, .error (.misuse (Job.group g members).label .restartUnfailed))

/-- Restarts the failed ones of several jobs and keeps the greatest attempt seen before an error. -/
def restartFailed (service : Service σ) (attempt : Nat) :
    List Job → Act σ (List Job × Nat × Except JobError Unit)
  | [] => pure ([], attempt, .ok ())
  | job :: rest => do
    let (job, result) ← if job.failed then restart service job else pure (job, .ok ())
    match result with
    | .error cause => pure (job :: rest, attempt, .error cause)
    | .ok () => do
      let (rest, attempt, result) ← restartFailed service (max attempt job.attempt) rest
      pure (job :: rest, attempt, result)
end

mutual
/-- The rows of a job; those of a group are those of its members, one after another. -/
def result (service : Service σ) : Job → Act σ (Except JobError (List (Answer Row)))
  | .report job => job.result service
  | .group _ members => results service members

def results (service : Service σ) : List Job → Act σ (Except JobError (List (Answer Row)))
  | [] => pure (.ok [])
  | job :: rest => do
    match ← result service job with
    | .error cause => pure (.error cause)
    | .ok rows =>
      match ← results service rest with
      | .error cause => pure (.error cause)
      | .ok more => pure (.ok (rows ++ more))
end

end Job

end AsyncReports
