import AsyncReports.Report
import AsyncReports.Log

set_option autoImplicit false

/-!
# The remote side

A service is what the remote side answers, as functions of a state of its own that nobody else looks into: any
sequence of answers is possible. A `World` is that state together with what an observer sees, which is the calls
made so far, the log and the clock. An action either ends, with a new world, or does not end within the rounds
it was given; then it is `none`.
-/

namespace AsyncReports

inductive ServiceError
  | request (status : Nat) (message : String)
  | transport (message : String)
  | decode (cause : DecodeError)

def ServiceError.message : ServiceError → String
  | .request status message => "Request failed with status " ++ toString status ++ ": " ++ message
  | .transport message => "Transport error: " ++ message
  | .decode cause => "Failed to decode response: " ++ cause.message

/-- What a request was answered with. -/
abbrev Answer (α : Type) := Except ServiceError α

structure Service (σ : Type) where
  /-- Submits a report and returns its run. -/
  submit : Edge → Params → σ → Answer Run × σ
  /-- Runs a report at once and returns its rows. -/
  query : Edge → Params → σ → Answer (List Row) × σ
  /-- Reads the status of one run. -/
  status : String → σ → Answer Run × σ
  /-- Reads the status documents of many runs in one round trip, in the order asked for. -/
  statuses : List String → σ → List (Answer Json) × σ
  /-- The rows of a completed run, page by page; a row can fail. -/
  rows : Run → Nat → σ → List (Answer Row) × σ
  throttle : σ → Answer Throttle × σ

/-- A request that was made. -/
inductive Call
  | submit (edge : Edge) (params : Params)
  | query (edge : Edge) (params : Params)
  | status (run : String)
  | statuses (runs : List String)
  | rows (run : String) (pageSize : Nat)
  | throttle

structure World (σ : Type) where
  remote : σ
  calls : List Call := []
  log : List LogEntry := []
  /-- Seconds. -/
  clock : Nat := 0

abbrev Act (σ : Type) := StateT (World σ) Option

namespace Act

variable {σ α : Type}

/-- Makes a request. -/
def call (c : Call) (ask : σ → α × σ) : Act σ α := fun w =>
  let (answer, remote) := ask w.remote
  some (answer, { w with remote, calls := w.calls ++ [c] })

def log (entries : List LogEntry) : Act σ Unit := fun w =>
  some ((), { w with log := w.log ++ entries })

/-- The time. -/
def now : Act σ Nat := fun w => some (w.clock, w)

/-- Thirty years: no sleep lasts longer. -/
def longestSleep : Nat := 30 * 365 * 24 * 60 * 60

def sleep (seconds : Nat) : Act σ Unit := fun w =>
  some ((), { w with clock := w.clock + min seconds longestSleep })

/-- The rounds have run out. -/
def unfinished : Act σ α := fun _ => none

end Act

namespace Service

variable {σ : Type}

def submitted (service : Service σ) (edge : Edge) (params : Params) : Act σ (Answer Run) :=
  Act.call (.submit edge params) (service.submit edge params)

def queried (service : Service σ) (edge : Edge) (params : Params) : Act σ (Answer (List Row)) :=
  Act.call (.query edge params) (service.query edge params)

def statusOf (service : Service σ) (run : String) : Act σ (Answer Run) :=
  Act.call (.status run) (service.status run)

def statusesOf (service : Service σ) (runs : List String) : Act σ (List (Answer Json)) :=
  Act.call (.statuses runs) (service.statuses runs)

def rowsOf (service : Service σ) (run : Run) (pageSize : Nat) : Act σ (List (Answer Row)) :=
  Act.call (.rows run.id pageSize) (service.rows run pageSize)

def throttleNow (service : Service σ) : Act σ (Answer Throttle) :=
  Act.call .throttle service.throttle

end Service

end AsyncReports
