import AsyncReports.Service

set_option autoImplicit false

/-!
# A scripted service

A service whose answers are written down beforehand, in queues. The front of a queue is taken away once more
entries follow it, and an error is always taken away, so the last answer that is no error is given for ever. An
empty queue stands for a default.
-/

namespace AsyncReports

/-- What a status check is answered with: a document as it stands, or the document of a run in the named status. -/
inductive ScriptedStatus
  | document (j : Json)
  | named (status : String)

structure Script where
  defaultStatus : Answer ScriptedStatus := .ok (.named "Job Running")
  /-- The queue of each run. -/
  status : List (String × List (Answer ScriptedStatus)) := []
  /-- The rows of each run, in documents that need not be rows. -/
  results : List (String × List (Answer Json)) := []
  /-- Documents of the runs to be submitted; nothing stands for a run named after the count. -/
  submits : List (Answer (Option Json)) := []
  /-- Lists of rows, in documents that need not be such lists. -/
  probes : List (Answer Json) := []
  throttles : List (Answer Json) := []
  /-- How many of the checks of a round trip are answered. -/
  batchLimits : List Nat := []
  /-- How many reports were submitted. -/
  submitted : Nat := 0

namespace Script

/-- Takes the next answer of a queue. -/
def take {α : Type} : List (Answer α) → Option (Answer α) × List (Answer α)
  | [] => (none, [])
  | [.ok a] => (some (.ok a), [.ok a])
  | answer :: rest => (some answer, rest)

/-- Replaces the entry under a name. -/
def put {α : Type} (name : String) (value : α) : List (String × α) → List (String × α)
  | [] => [(name, value)]
  | (other, old) :: rest =>
    if name = other then (name, value) :: rest else (other, old) :: put name value rest

/-- The document of a run in a status. -/
def statusDocument (run status : String) : Json :=
  .object
    [("account_id", .text "212551616838260"),
      ("async_percent_completion", .int (if status = Status.completed.text then 100 else 0)),
      ("async_status", .text status),
      ("id", .text run)]

def decoded {α : Type} (decoder : Decoder α) (j : Json) : Answer α :=
  (decoder j).mapError .decode

/-- The document that a status check of a run gets to see. -/
def ScriptedStatus.document (run : String) : ScriptedStatus → Json
  | .document j => j
  | .named status => statusDocument run status

def statusAnswer (run : String) (s : Script) : Answer Json × Script :=
  let (answer, queue) := take ((s.status.lookup run).getD [])
  ((answer.getD s.defaultStatus).map (ScriptedStatus.document run), { s with status := put run queue s.status })

def statusAnswers : List String → Script → List (Answer Json) × Script
  | [], s => ([], s)
  | run :: rest, s =>
    let (answer, s) := statusAnswer run s
    let (answers, s) := statusAnswers rest s
    (answer :: answers, s)

def submitAnswer (s : Script) : Answer Run × Script :=
  let s := { s with submitted := s.submitted + 1 }
  let fresh : Run := { id := "run-" ++ toString s.submitted, status := .started }
  match s.submits with
  | [] => (.ok fresh, s)
  | answer :: rest =>
    let s := { s with submits := rest }
    match answer with
    | .error cause => (.error cause, s)
    | .ok none => (.ok fresh, s)
    | .ok (some document) => (decoded Run.decode document, s)

def service : Service Script where
  submit _ _ s := submitAnswer s
  query _ _ s :=
    let (answer, probes) := take s.probes
    (((answer.getD (.ok (.array []))).bind (decoded (Decoder.list Row.decode))), { s with probes })
  status run s :=
    let (answer, s) := statusAnswer run s
    (answer.bind (decoded Run.decode), s)
  statuses runs s :=
    match s.batchLimits with
    | [] => statusAnswers runs s
    | limit :: rest => statusAnswers (runs.take limit) { s with batchLimits := rest }
  rows run _ s := (((s.results.lookup run.id).getD []).map fun answer => answer.bind (decoded Row.decode), s)
  throttle s :=
    let (answer, throttles) := take s.throttles
    ((answer.map fun answer => answer.bind (decoded Throttle.decode)).getD (.ok {}), { s with throttles })

end Script

end AsyncReports
