import AsyncReports.Manager

set_option autoImplicit false

/-!
# Sessions

A session keeps jobs, batches and managers under names. A batch may outlive the call that filled it, and a job
may by then be a member of a group, with a manager, or nowhere any more; each answer is taken in wherever the job
of its check is now. A check that no job queued has a listener, and what it hears is kept for the caller.
-/

namespace AsyncReports

/-- Where an answer goes that comes in through a named batch. -/
inductive Owner
  | job (handle : Nat) (label : String)
  | listener

mutual
/-- Takes an answer in if the job with the handle is found. -/
def Job.receiveFor {σ : Type} (handle : Nat) (label : String) (answer : Answer Json) : Job → Act σ Job
  | .report job =>
    if job.handle = some handle then do
      let job ← job.receive label answer
      pure (.report job)
    else pure (.report job)
  | .group g members => do
    let members ← Job.receiveAmong handle label answer members
    pure (.group g members)

def Job.receiveAmong {σ : Type} (handle : Nat) (label : String) (answer : Answer Json) :
    List Job → Act σ (List Job)
  | [] => pure []
  | job :: rest => do
    let job ← Job.receiveFor handle label answer job
    let rest ← Job.receiveAmong handle label answer rest
    pure (job :: rest)
end

/-- How much the owner of a job knows of it. -/
inductive Known
  | report
  | group
  | job
deriving DecidableEq

structure NamedJob where
  name : String
  known : Known
  job : Job

/-- What a listener heard about a run. -/
structure Heard where
  run : String
  answer : Answer Json

structure Session where
  jobs : List NamedJob := []
  batches : List (String × Batch Owner) := []
  managers : List (String × Manager) := []
  /-- Jobs that nobody can name any more; checks may still be under way for them. -/
  dropped : List Job := []
  heard : List Heard := []
  /-- Handles given out so far. -/
  handles : Nat := 0

namespace Session

variable {σ : Type}

def job? (s : Session) (name : String) : Option NamedJob := s.jobs.find? (·.name = name)

/-- Stores a job; one that had the name is dropped. -/
def putJob (name : String) (known : Known) (job : Job) (s : Session) : Session :=
  { s with
    jobs := s.jobs.filter (·.name ≠ name) ++ [⟨name, known, job⟩]
    dropped := s.dropped ++ (s.jobs.filter (·.name = name)).map (·.job) }

/-- Stores what became of a job. -/
def setJob (name : String) (job : Job) (s : Session) : Session :=
  { s with jobs := s.jobs.map fun named => if named.name = name then { named with job } else named }

/-- Takes a job away from its name. -/
def takeJob (name : String) (s : Session) : Session :=
  { s with jobs := s.jobs.filter (·.name ≠ name) }

/-- Stores a new report job with a handle of its own. -/
def addReport (name : String) (job : ReportJob) (s : Session) : Session :=
  { s.putJob name .report (.report { job with handle := some (s.handles + 1) }) with
    handles := s.handles + 1 }

def dropJobs (jobs : List Job) (s : Session) : Session := { s with dropped := s.dropped ++ jobs }

/-- Takes several jobs away from their names, in order. The first name without a job ends it; the jobs taken
before are dropped then. -/
def takeNamed (s : Session) (taken : List NamedJob) : List String → Session × Except String (List NamedJob)
  | [] => (s, .ok taken)
  | name :: rest =>
    match s.job? name with
    | some named => takeNamed (s.takeJob name) (taken ++ [named]) rest
    | none => (s.dropJobs (taken.map (·.job)), .error name)

/-- Takes several jobs away from their names; those that do not suit are dropped. -/
def takeJobs (suits : NamedJob → Bool) (names : List String) (s : Session) : Session × Except String (List Job) :=
  match s.takeNamed [] names with
  | (s, .error name) => (s, .error name)
  | (s, .ok taken) =>
    (s.dropJobs ((taken.filter (!suits ·)).map (·.job)), .ok ((taken.filter suits).map (·.job)))

def batch? (s : Session) (name : String) : Option (Batch Owner) := s.batches.lookup name

def putBatch (name : String) (batch : Batch Owner) (s : Session) : Session :=
  { s with batches := s.batches.filter (·.1 ≠ name) ++ [(name, batch)] }

def takeBatch (name : String) (s : Session) : Session :=
  { s with batches := s.batches.filter (·.1 ≠ name) }

def manager? (s : Session) (name : String) : Option Manager := s.managers.lookup name

/-- Stores a manager; the jobs of one that had the name are dropped. -/
def putManager (name : String) (m : Manager) (s : Session) : Session :=
  let old := s.managers.filter (·.1 = name)
  { s with
    managers := s.managers.filter (·.1 ≠ name) ++ [(name, m)]
    dropped := s.dropped ++ old.flatMap fun (_, m) => m.source ++ m.queue ++ m.retired }

/-- Stores what became of a manager. -/
def setManager (name : String) (m : Manager) (s : Session) : Session :=
  { s with managers := s.managers.map fun named => if named.1 = name then (name, m) else named }

def receiveNamed (handle : Nat) (label : String) (answer : Answer Json) :
    List NamedJob → Act σ (List NamedJob)
  | [] => pure []
  | named :: rest => do
    let job ← named.job.receiveFor handle label answer
    let rest ← receiveNamed handle label answer rest
    pure ({ named with job } :: rest)

def receiveManaged (handle : Nat) (label : String) (answer : Answer Json) :
    List (String × Manager) → Act σ (List (String × Manager))
  | [] => pure []
  | (name, m) :: rest => do
    let source ← Job.receiveAmong handle label answer m.source
    let queue ← Job.receiveAmong handle label answer m.queue
    let retired ← Job.receiveAmong handle label answer m.retired
    let rest ← receiveManaged handle label answer rest
    pure ((name, { m with source, queue, retired }) :: rest)

/-- Takes in an answer to a check of a named batch, with the run that was asked about. -/
def receive (s : Session) (owner : String × Owner) (answer : Answer Json) : Act σ Session :=
  match owner.2 with
  | .listener => pure { s with heard := s.heard ++ [⟨owner.1, answer⟩] }
  | .job handle label => do
    let jobs ← receiveNamed handle label answer s.jobs
    let managers ← receiveManaged handle label answer s.managers
    let dropped ← Job.receiveAmong handle label answer s.dropped
    pure { s with jobs, managers, dropped }

/-- A batch whose checks know the run they ask about. -/
def addressed (batch : Batch Owner) : Batch (String × Owner) :=
  batch.map fun check => ⟨check.run, check.run, check.owner⟩

def unaddressed (batch : Batch (String × Owner)) : Batch Owner :=
  batch.map fun check => ⟨check.run, check.owner.2⟩

/-- Sends a batch once; what has to be sent again takes its name. -/
def execute (service : Service σ) (name : String) (batch : Batch Owner) (s : Session) :
    Act σ (Session × Batch Owner) := do
  let (s, retry) ← Batch.execute service receive (s.takeBatch name) (addressed batch)
  let retry := unaddressed retry
  pure (if retry.isEmpty then s else s.putBatch name retry, retry)

/-- Sends a batch until nothing has to be sent again. -/
def drain (service : Service σ) (rounds : Nat) (name : String) (batch : Batch Owner) (s : Session) :
    Act σ Session :=
  Batch.drain service receive rounds (s.takeBatch name) (addressed batch)

/-- Queues the check of a report job in a batch. A group takes no part in it and polls at once. A job that has no
handle cannot be found again; handles count from one. -/
def enqueue (service : Service σ) (rounds : Nat) (batch : Batch Owner) :
    Job → Act σ (Job × Batch Owner × Except JobError Unit)
  | .report job => do
    let (checks, result) ← job.check (Owner.job (job.handle.getD 0))
    pure (.report job, batch ++ checks, result)
  | .group g members => do
    let (job, result) ← Job.update service rounds (.group g members)
    pure (job, batch, result)

/-- One call of a manager; what it hands out is dropped unless a name is given. -/
def next (service : Service σ) (rounds : Nat) (name : String) (m : Manager) (keep : Option String)
    (s : Session) : Act σ (Session × Manager × Except JobError (Option (List Job))) := do
  let (m, result) ← m.next service rounds
  let s := s.setManager name m
  match result with
  | .ok (some completed) =>
    match keep with
    | some base =>
      let names := (List.range completed.length).map fun i => base ++ toString i
      pure ((names.zip completed).foldl (fun s (name, job) => s.putJob name .job job) s, m, result)
    | none => pure ({ s with dropped := s.dropped ++ completed }, m, result)
  | _ => pure (s, m, result)

end Session

end AsyncReports
