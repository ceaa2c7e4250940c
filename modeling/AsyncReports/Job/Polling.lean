import AsyncReports.Job

set_option autoImplicit false

/-!
# Polling

Several jobs are polled through one batch. A report job queues its check there; a group takes no place in it but
polls its own members at once, in chunks, each through a batch of its own. The answer to a check goes to the
position of its job among the jobs that share the batch. Checks that are queued when an error turns up are still
sent and answered before the error is passed on.
-/

namespace AsyncReports

/-- Where an answer goes: a position, and the label that the job there had when its check was queued. -/
structure Slot where
  position : Nat
  label : String
deriving DecidableEq

namespace Job

variable {σ : Type}

/-- Takes an answer in at its position. -/
def receiveAt : List Job → Slot → Answer Json → Act σ (List Job)
  | [], _, _ => pure []
  | .report job :: rest, ⟨0, label⟩, answer => do
    let job ← job.receive label answer
    pure (.report job :: rest)
  | .group g members :: rest, ⟨0, _⟩, _ => pure (.group g members :: rest)
  | job :: rest, ⟨position + 1, label⟩, answer => do
    let rest ← receiveAt rest ⟨position, label⟩ answer
    pure (job :: rest)

/-- Drains the batch that several jobs share. -/
def settle (service : Service σ) (rounds : Nat) (jobs : List Job) (batch : Batch Slot) : Act σ (List Job) :=
  Batch.drain service receiveAt rounds jobs batch

mutual
/-- Polls a job at a position of a shared batch: the job, its checks for that batch, and whether it went well. -/
def poll (service : Service σ) (rounds position : Nat) :
    Job → Act σ (Job × Batch Slot × Except JobError Unit)
  | .report job => do
    let (checks, result) ← job.check fun label => (⟨position, label⟩ : Slot)
    pure (.report job, checks, result)
  | .group g members => do
    let (members, result) ← pollMembers service rounds (max g.settings.batch.maxCalls 1) [] [] 0 members
    pure (.group g members, [], result)

/-- Polls the unfinished ones of a group's members. `done` are the members before the ones that are left, `batch`
is what the current chunk has queued, and `taken` counts the members of the chunk so far. -/
def pollMembers (service : Service σ) (rounds size : Nat) (done : List Job) (batch : Batch Slot)
    (taken : Nat) : List Job → Act σ (Outcome (List Job))
  | [] => do
    let done ← settle service rounds done batch
    pure (done, .ok ())
  | job :: rest =>
    if job.completed then pollMembers service rounds size (done ++ [job]) batch taken rest
    else do
      let (job, checks, result) ← poll service rounds done.length job
      let batch := batch ++ checks
      match result with
      | .error cause => do
        let done ← settle service rounds (done ++ [job]) batch
        pure (done ++ rest, .error cause)
      | .ok () =>
        if taken + 1 = size then do
          let done ← settle service rounds (done ++ [job]) batch
          pollMembers service rounds size done [] 0 rest
        else pollMembers service rounds size (done ++ [job]) batch (taken + 1) rest
end

/-- Reads the status of a job at once. -/
def update (service : Service σ) (rounds : Nat) : Job → Act σ (Outcome Job)
  | .report job => do
    let (job, result) ← job.update service
    pure (.report job, result)
  | .group g members => do
    let (job, _, result) ← poll service rounds 0 (.group g members)
    pure (job, result)

def queueLimitEntry : LogEntry := { level := .info, message := "Reached batch queue limit" }

/-- Polls jobs from the front of a queue through one batch, until it holds `limit` checks. `done` are the jobs
before the ones that are left. -/
def pollQueue (service : Service σ) (rounds limit : Nat) (done : List Job) (batch : Batch Slot) :
    List Job → Act σ (Outcome (List Job))
  | [] => do
    let done ← settle service rounds done batch
    pure (done, .ok ())
  | job :: rest =>
    if limit ≤ batch.length then do
      Act.log [queueLimitEntry]
      let done ← settle service rounds done batch
      pure (done ++ job :: rest, .ok ())
    else do
      let (job, checks, result) ← poll service rounds done.length job
      let batch := batch ++ checks
      match result with
      | .error cause => do
        let done ← settle service rounds (done ++ [job]) batch
        pure (done ++ rest, .error cause)
      | .ok () => pollQueue service rounds limit (done ++ [job]) batch rest

end Job

end AsyncReports
