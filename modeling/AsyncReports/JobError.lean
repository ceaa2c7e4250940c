import AsyncReports.Service
import AsyncReports.Settings

set_option autoImplicit false

/-!
# What goes wrong with a job

Misuse is a call that the job's state does not allow. The other causes are no fault of the caller.
-/

namespace AsyncReports

/-- A call that came at the wrong time. -/
inductive Misuse
  | startTwice
  | restartUnfailed
  | updateUnstarted
  | resultMissing
deriving DecidableEq

namespace Misuse

def operation : Misuse → String
  | .startTwice => "start"
  | .restartUnfailed => "restart"
  | .updateUnstarted => "update_job"
  | .resultMissing => "get_result"

def reason : Misuse → String
  | .startTwice => "the job already started, use restart instead"
  | .restartUnfailed => "only failed jobs can be restarted"
  | .updateUnstarted => "the job is not started"
  | .resultMissing => "the job is not started or failed"

end Misuse

inductive JobError
  | misuse (job : String) (cause : Misuse)
  /-- A group cannot be split. -/
  | unsplittable (job : String)
  | reversedInterval (start stop : Date)
  | attemptsExhausted (job : String) (attempts : Nat)
  | service (cause : ServiceError)
  | settings (cause : SettingsError)

namespace JobError

def message : JobError → String
  | .misuse job cause => job ++ ": Incorrect usage of " ++ cause.operation ++ " - " ++ cause.reason
  | .unsplittable job => job ++ ": split_job is not supported"
  | .reversedInterval start stop => "Invalid interval: start " ++ start.text ++ " is after end " ++ stop.text
  | .attemptsExhausted job attempts => job ++ ": failed " ++ toString attempts ++ " times. Terminating..."
  | .service cause => "Insights API error: " ++ cause.message
  | .settings cause => "Configuration error: " ++ cause.message

/-- The caller broke the rules of a job's life. -/
def isMisuse : JobError → Bool
  | .misuse _ _ => true
  | _ => false

def isUnsupported : JobError → Bool
  | .unsplittable _ => true
  | _ => false

end JobError

/-- Like `Interval.ofDates?`, with the cause of a refusal. -/
def Interval.ofDates (start stop : Date) : Except JobError Interval :=
  match Interval.ofDates? start stop with
  | some i => .ok i
  | none => .error (.reversedInterval start stop)

end AsyncReports
