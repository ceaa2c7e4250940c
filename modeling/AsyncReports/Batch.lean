import AsyncReports.Service

set_option autoImplicit false

/-!
# Grouped status checks

A batch collects status checks and sends them in one round trip. Every check says where its answer belongs; the
meaning of that is up to the holder of the batch, who takes the answers in. A check that the remote side fails or
leaves out is kept, with everything it carries, for another round trip, and `drain` goes on until none is left.
-/

namespace AsyncReports

/-- One status check: the run it asks about, and where the answer belongs. -/
structure Check (τ : Type) where
  run : String
  owner : τ

/-- Checks in the order in which they were queued. -/
abbrev Batch (τ : Type) := List (Check τ)

namespace Batch

variable {σ τ β : Type}

def runs (batch : Batch τ) : List String := batch.map (·.run)

/-- What a check without an answer counts as. -/
def unanswered (run : String) : ServiceError :=
  .transport ("no response for batched call " ++ run)

/-- Pairs checks with answers by position. Answers beyond the last check are dropped. -/
def pair : Batch τ → List (Answer Json) → List (Check τ × Answer Json)
  | [], _ => []
  | check :: rest, [] => (check, .error (unanswered check.run)) :: pair rest []
  | check :: rest, answer :: answers => (check, answer) :: pair rest answers

/-- The checks that have to be sent again. -/
def retries (answered : List (Check τ × Answer Json)) : Batch τ :=
  (answered.filter fun pair => match pair.2 with | .error _ => true | .ok _ => false).map Prod.fst

/-- Hands every answer to its owner, in order. -/
def deliver (receive : β → τ → Answer Json → Act σ β) : β → List (Check τ × Answer Json) → Act σ β
  | b, [] => pure b
  | b, (check, answer) :: rest => do
    let b ← receive b check.owner answer
    deliver receive b rest

def retryEntry (retry : Batch τ) : LogEntry :=
  { level := .info
    message := "Some batched calls failed, retrying"
    fields := [("retries", .number retry.length)] }

/-- One round trip. An empty batch is not sent. -/
def execute (service : Service σ) (receive : β → τ → Answer Json → Act σ β) (b : β) (batch : Batch τ) :
    Act σ (β × Batch τ) := do
  match batch with
  | [] => pure (b, [])
  | check :: rest =>
    let batch := check :: rest
    let answers ← service.statusesOf (runs batch)
    let answered := pair batch answers
    let b ← deliver receive b answered
    let retry := retries answered
    Act.log (if retry.isEmpty then [] else [retryEntry retry])
    pure (b, retry)

/-- Round trips until nothing has to be sent again. -/
def drain (service : Service σ) (receive : β → τ → Answer Json → Act σ β) :
    Nat → β → Batch τ → Act σ β
  | _, b, [] => pure b
  | 0, _, _ :: _ => Act.unfinished
  | rounds + 1, b, check :: rest => do
    let (b, retry) ← execute service receive b (check :: rest)
    drain service receive rounds b retry

/-- The listing of a batch. -/
def text (batch : Batch τ) : String :=
  "StatusBatch \x7b report_run_ids: " ++ Text.quotedList (runs batch) ++ " \x7d"

end Batch

end AsyncReports
