import AsyncReports.Job.Polling
import AsyncReports.Split

set_option autoImplicit false

/-!
# The manager

A manager takes jobs from a source while the remote side's load allows it and the queue has room, polls those that
run, and hands them out as they complete. A failed job is restarted, or split when it fails for the second time,
and given up once it has used its attempts. An error ends the call, not the manager: the next call goes on with
the queue as the error left it.

Nothing here promises that no job gets lost. A job whose own start fails has left the source and does not enter
the queue, and jobs that were about to be handed out when an error came up are gone with it; `retired` remembers
them, and those that were split.
-/

namespace AsyncReports

structure Manager where
  settings : ManagerSettings := {}
  /-- Jobs that have not been started. -/
  source : List Job
  /-- Jobs that have been started and not handed out. -/
  queue : List Job := []
  /-- The load that was read last. -/
  throttle : Float := 0
  /-- Jobs that were let go without being handed out. -/
  retired : List Job := []

namespace Manager

variable {σ : Type}

def waitEntry (m : Manager) : LogEntry :=
  { level := .info
    message := "Current throttle is " ++ Decimal.Layout.sentence.write m.throttle ++ ", wait " ++
      toString m.settings.pollSeconds ++ " seconds"
    fields := [("throttle", .float m.throttle)] }

def idleEntry (m : Manager) : LogEntry :=
  { level := .info
    message := "No jobs ready to be consumed, wait for " ++ toString m.settings.pollSeconds ++ " seconds" }

def filledEntry (m : Manager) (added : Nat) : LogEntry :=
  { level := .info
    message := "Added: " ++ toString added ++ " jobs. Current throttle limit is " ++
      Decimal.Layout.sentence.write m.throttle ++ ", " ++ toString m.queue.length ++ "/" ++
      toString m.settings.maxQueue ++ " job(s) in queue"
    fields :=
      [("added", .number added), ("throttle", .float m.throttle), ("running", .number m.queue.length),
        ("max_jobs_in_queue", .number m.settings.maxQueue)] }

def passEntry (completed failed running : Nat) : LogEntry :=
  { level := .info
    message := "Completed jobs: " ++ toString completed ++ ", Failed jobs: " ++ toString failed ++
      ", Running jobs: " ++ toString running
    fields := [("completed", .number completed), ("failed", .number failed), ("running", .number running)] }

def restartingEntry (job : Job) : LogEntry :=
  { level := .info
    message := job.label ++ ": failed, restarting"
    fields := [("job", .shown job.label)] }

def splittingEntry (job : Job) : LogEntry :=
  { level := .info
    message := job.label ++ ": failed second time, trying to split job into smaller chunks"
    fields := [("job", .shown job.label)] }

def unsplittableEntry (job : Job) : LogEntry :=
  { level := .warn
    message := job.label ++ ": cannot be split further, restarting"
    fields := [("job", .shown job.label)] }

/-- Reads the load. -/
def readThrottle (service : Service σ) (m : Manager) : Act σ (Outcome Manager) := do
  match ← service.throttleNow with
  | .error cause => pure (m, .error (.service cause))
  | .ok throttle => pure ({ m with throttle := throttle.current }, .ok ())

/-- Waits until the load is no longer above its limit. -/
def awaitThrottle (service : Service σ) : Nat → Manager → Act σ (Outcome Manager)
  | rounds, m =>
    if m.settings.throttleLimit < m.throttle then
      match rounds with
      | 0 => Act.unfinished
      | rounds + 1 => do
        Act.log [m.waitEntry]
        Act.sleep m.settings.pollSeconds
        let (m, result) ← m.readThrottle service
        match result with
        | .error cause => pure (m, .error cause)
        | .ok () => awaitThrottle service rounds m
    else pure (m, .ok ())

/-- There is room for another job. -/
def hasRoom (m : Manager) : Bool :=
  m.throttle < m.settings.throttleLimit && m.queue.length < m.settings.maxQueue

/-- Starts jobs of the source in order, as long as there is room. -/
def startFrom (service : Service σ) (m : Manager) : List Job → Act σ (Outcome Manager)
  | [] => pure ({ m with source := [] }, .ok ())
  | job :: rest =>
    if m.hasRoom then do
      let (job, result) ← job.start service
      match result with
      | .error cause => pure ({ m with source := rest, retired := m.retired ++ [job] }, .error cause)
      | .ok () => startFrom service { m with queue := m.queue ++ [job] } rest
    else pure ({ m with source := job :: rest }, .ok ())

/-- Reads the load, waits for it, and starts what there is room for. -/
def fill (service : Service σ) (rounds : Nat) (m : Manager) : Act σ (Outcome Manager) := do
  let (m, result) ← m.readThrottle service
  match result with
  | .error cause => pure (m, .error cause)
  | .ok () =>
    let (m, result) ← awaitThrottle service rounds m
    match result with
    | .error cause => pure (m, .error cause)
    | .ok () =>
      let before := m.queue.length
      let (m, result) ← startFrom service m m.source
      match result with
      | .error cause => pure (m, .error cause)
      | .ok () =>
        Act.log [m.filledEntry (m.queue.length - before)]
        pure (m, .ok ())

/-- Polls the front of the queue. -/
def pollPass (service : Service σ) (rounds : Nat) (m : Manager) : Act σ (Outcome Manager) := do
  let (queue, result) ← Job.pollQueue service rounds m.settings.maxChecks [] [] m.queue
  pure ({ m with queue }, result)

/-- What became of a failed job: the job that takes its place, and the one it was if it was split. -/
structure Recovery where
  job : Job
  replaced : Option Job := none

/-- Restarts a job and reports it. -/
def restartJob (service : Service σ) (job : Job) : Act σ (Outcome Recovery) := do
  let (job, result) ← job.restart service
  match result with
  | .error cause => pure (⟨job, none⟩, .error cause)
  | .ok () =>
    Act.log [.jobOperation "restart" job.label job.attempt "started" none]
    pure (⟨job, none⟩, .ok ())

/-- Gives a failed job another chance, unless it has used its attempts. -/
def recover (service : Service σ) (settings : ManagerSettings) (job : Job) : Act σ (Outcome Recovery) :=
  let attempt := job.attempt
  if settings.maxAttempts ≤ attempt then
    pure (⟨job, none⟩, .error (.attemptsExhausted job.label attempt))
  else if attempt = Limits.splitOnAttempt then do
    Act.log [splittingEntry job]
    match ← job.split service with
    | .ok parts =>
      let (parts, result) ← parts.start service
      match result with
      | .error cause => pure (⟨job, none⟩, .error cause)
      | .ok () =>
        Act.log [.jobOperation "split" parts.label attempt "started" (some job.label)]
        pure (⟨parts, some job⟩, .ok ())
    | .error (.unsplittable _) => do
      Act.log [unsplittableEntry job]
      restartJob service job
    | .error cause => pure (⟨job, none⟩, .error cause)
  else do
    Act.log [restartingEntry job]
    restartJob service job

/-- A queue that is being sorted: what stays, what is handed out, what was replaced, and how many had failed. -/
structure Sorting where
  kept : List Job := []
  completed : List Job := []
  replaced : List Job := []
  failures : Nat := 0

/-- Sorts the jobs of a queue in order. On an error every job stays: those sorted so far, the one in trouble,
those that had completed, and those not looked at. -/
def sort (service : Service σ) (settings : ManagerSettings) (s : Sorting) :
    List Job → Act σ (Sorting × Except JobError Unit)
  | [] => pure (s, .ok ())
  | job :: rest =>
    if job.failed then do
      let (recovery, result) ← recover service settings job
      let s := { s with kept := s.kept ++ [recovery.job], failures := s.failures + 1,
                        replaced := s.replaced ++ recovery.replaced.toList }
      match result with
      | .error cause => pure ({ s with kept := s.kept ++ s.completed ++ rest, completed := [] }, .error cause)
      | .ok () => sort service settings s rest
    else if job.completed then sort service settings { s with completed := s.completed ++ [job] } rest
    else sort service settings { s with kept := s.kept ++ [job] } rest

/-- One pass over the queue: poll, wait for the load, take out what has completed, and recover what has failed. -/
def pass (service : Service σ) (rounds : Nat) (m : Manager) :
    Act σ (Manager × Except JobError (List Job)) := do
  let (m, result) ← m.pollPass service rounds
  match result with
  | .error cause => pure (m, .error cause)
  | .ok () =>
    let (m, result) ← awaitThrottle service rounds m
    match result with
    | .error cause => pure (m, .error cause)
    | .ok () =>
      let (s, result) ← sort service m.settings {} m.queue
      let m := { m with queue := s.kept, retired := m.retired ++ s.replaced }
      match result with
      | .error cause => pure (m, .error cause)
      | .ok () =>
        Act.log [passEntry s.completed.length s.failures m.queue.length]
        pure (m, .ok s.completed)

/-- Passes over the queue until one finds completed jobs. -/
def awaitCompleted (service : Service σ) (rounds : Nat) :
    Nat → Manager → Act σ (Manager × Except JobError (List Job))
  | 0, _ => Act.unfinished
  | passes + 1, m => do
    let (m, result) ← m.pass service rounds
    match result with
    | .error cause => pure (m, .error cause)
    | .ok (job :: rest) => pure (m, .ok (job :: rest))
    | .ok [] =>
      Act.log [m.idleEntry]
      Act.sleep m.settings.pollSeconds
      awaitCompleted service rounds passes m

/-- The rest of `next` once the queue is known to hold a job. -/
def nextRunning (service : Service σ) (rounds : Nat) (m : Manager) :
    Act σ (Manager × Except JobError (Option (List Job))) := do
  let (m, result) ← awaitCompleted service rounds rounds m
  match result with
  | .error cause => pure (m, .error cause)
  | .ok completed =>
    let (m, result) ← m.fill service rounds
    match result with
    | .error cause => pure ({ m with retired := m.retired ++ completed }, .error cause)
    | .ok () => pure (m, .ok (some completed))

/-- Waits until at least one job has completed and hands out those that have. Nothing is handed out when no job
runs and none could be started. Every loop is given `rounds` turns. -/
def next (service : Service σ) (rounds : Nat) (m : Manager) :
    Act σ (Manager × Except JobError (Option (List Job))) := do
  let (m, result) ← if m.queue.isEmpty then m.fill service rounds else pure (m, .ok ())
  match result with
  | .error cause => pure (m, .error cause)
  | .ok () =>
    if m.queue.isEmpty then pure (m, .ok none) else m.nextRunning service rounds

end Manager

end AsyncReports
