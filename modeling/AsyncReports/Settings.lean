import AsyncReports.Report

set_option autoImplicit false

/-!
# Settings

Everything that can be tuned, with its default. The defaults follow the documented limits of the remote side, so
nothing has to be set. `Settings.check` reports the first value that is out of range; decoding a document of
settings fills in defaults but checks no range.
-/

namespace AsyncReports

namespace Limits

/-- The most calls that the remote side takes in one grouped request. -/
def callsPerBatch : Nat := 50

/-- How many result rows are asked for at a time. -/
def resultPageSize : Nat := 100

/-- How many days an effect may come after its cause. -/
def attributionDays : Nat := 28

/-- The current day is always looked at as well. -/
def attributionExtraDays : Nat := 1

/-- A job that fails in this attempt is split rather than restarted. -/
def splitOnAttempt : Nat := 2

/-- No job is started once the load has reached this percentage. -/
def throttle : Float := 70

def attempts : Nat := 5

/-- The wait between two polling passes. -/
def pollSeconds : Nat := 30

/-- The most jobs that run at a time. -/
def queue : Nat := 100

/-- The most status checks in one polling pass. -/
def checks : Nat := 50

end Limits

structure BatchSettings where
  /-- The size of the groups in which members are polled. -/
  maxCalls : Nat := Limits.callsPerBatch
deriving DecidableEq

structure ResultSettings where
  pageSize : Nat := Limits.resultPageSize
deriving DecidableEq

structure SplitSettings where
  windowDays : Nat := Limits.attributionDays
  /-- The level whose identifiers a job is split by. -/
  level : Level := .campaign
deriving DecidableEq

/-- How far back a probe looks. The days are counted in 32 bits, so the longest window of all wraps around to none. -/
def SplitSettings.lookbackDays (s : SplitSettings) : Nat :=
  (UInt32.ofNat s.windowDays + UInt32.ofNat Limits.attributionExtraDays).toNat

structure ManagerSettings where
  throttleLimit : Float := Limits.throttle
  maxAttempts : Nat := Limits.attempts
  pollSeconds : Nat := Limits.pollSeconds
  maxQueue : Nat := Limits.queue
  maxChecks : Nat := Limits.checks

structure Settings where
  batch : BatchSettings := {}
  results : ResultSettings := {}
  splitter : SplitSettings := {}
  manager : ManagerSettings := {}

inductive SettingsError
  /-- A source could not be read or does not fit. -/
  | loadFailed (directory : String)
  | outOfRange (field value rule : String)
deriving DecidableEq

def SettingsError.message : SettingsError → String
  | .loadFailed directory => "Failed to load configuration from '" ++ directory ++ "'"
  | .outOfRange field value rule => "Invalid value '" ++ value ++ "' for field '" ++ field ++ "': " ++ rule

namespace Settings

def positive (field : String) (n : Nat) : Except SettingsError Unit :=
  if n = 0 then .error (.outOfRange field (toString n) "must be greater than 0") else .ok ()

/-- Whether a load is between 0 and 100. -/
def isPercentage (x : Float) : Bool := 0 ≤ x && x ≤ 100

def check (s : Settings) : Except SettingsError Unit := do
  if s.batch.maxCalls = 0 ∨ Limits.callsPerBatch < s.batch.maxCalls then
    throw (.outOfRange "batch.max_calls_per_batch" (toString s.batch.maxCalls)
      ("must be between 1 and " ++ toString Limits.callsPerBatch))
  positive "results.page_size" s.results.pageSize
  positive "manager.max_attempts" s.manager.maxAttempts
  if !isPercentage s.manager.throttleLimit then
    throw (.outOfRange "manager.throttle_limit" (Decimal.Layout.sentence.write s.manager.throttleLimit)
      "must be a percentage between 0 and 100")
  positive "manager.max_jobs_in_queue" s.manager.maxQueue
  positive "manager.max_jobs_to_check" s.manager.maxChecks

end Settings

namespace BatchSettings

def shape : Shape := ⟨"BatchConfig", [("max_calls_per_batch", Decoder.size.check)]⟩

def decode : Decoder BatchSettings := fun j => do
  let (fields, spelling) ← shape.entries j
  let maxCalls ← Shape.defaulted fields "max_calls_per_batch" Decoder.size Limits.callsPerBatch
  shape.finish spelling
  pure ⟨maxCalls⟩

def encode (s : BatchSettings) : Json := .object [("max_calls_per_batch", .nat s.maxCalls)]

end BatchSettings

namespace ResultSettings

def shape : Shape := ⟨"ResultsConfig", [("page_size", Decoder.size.check)]⟩

def decode : Decoder ResultSettings := fun j => do
  let (fields, spelling) ← shape.entries j
  let pageSize ← Shape.defaulted fields "page_size" Decoder.size Limits.resultPageSize
  shape.finish spelling
  pure ⟨pageSize⟩

def encode (s : ResultSettings) : Json := .object [("page_size", .nat s.pageSize)]

end ResultSettings

namespace SplitSettings

def shape : Shape :=
  ⟨"SplitterConfig",
    [("attribution_window_days", Decoder.count.check), ("partition_level", Level.decode.check)]⟩

def decode : Decoder SplitSettings := fun j => do
  let (fields, spelling) ← shape.entries j
  let windowDays ← Shape.defaulted fields "attribution_window_days" Decoder.count Limits.attributionDays
  let level ← Shape.defaulted fields "partition_level" Level.decode .campaign
  shape.finish spelling
  pure ⟨windowDays, level⟩

def encode (s : SplitSettings) : Json :=
  .object [("attribution_window_days", .nat s.windowDays), ("partition_level", s.level.encode)]

end SplitSettings

namespace ManagerSettings

def shape : Shape :=
  ⟨"ManagerConfig",
    [("throttle_limit", Decoder.float.check),
      ("max_attempts", Decoder.count.check),
      ("status_poll_interval_seconds", Decoder.duration.check),
      ("max_jobs_in_queue", Decoder.size.check),
      ("max_jobs_to_check", Decoder.size.check)]⟩

def decode : Decoder ManagerSettings := fun j => do
  let (fields, spelling) ← shape.entries j
  let throttleLimit ← Shape.defaulted fields "throttle_limit" Decoder.float Limits.throttle
  let maxAttempts ← Shape.defaulted fields "max_attempts" Decoder.count Limits.attempts
  let pollSeconds ← Shape.defaulted fields "status_poll_interval_seconds" Decoder.duration Limits.pollSeconds
  let maxQueue ← Shape.defaulted fields "max_jobs_in_queue" Decoder.size Limits.queue
  let maxChecks ← Shape.defaulted fields "max_jobs_to_check" Decoder.size Limits.checks
  shape.finish spelling
  pure ⟨throttleLimit, maxAttempts, pollSeconds, maxQueue, maxChecks⟩

def encode (s : ManagerSettings) : Json :=
  .object
    [("max_attempts", .nat s.maxAttempts),
      ("max_jobs_in_queue", .nat s.maxQueue),
      ("max_jobs_to_check", .nat s.maxChecks),
      ("status_poll_interval_seconds", .nat s.pollSeconds),
      ("throttle_limit", .float s.throttleLimit)]

end ManagerSettings

namespace Settings

def shape : Shape :=
  ⟨"InsightsJobsConfig",
    [("batch", BatchSettings.decode.check),
      ("results", ResultSettings.decode.check),
      ("splitter", SplitSettings.decode.check),
      ("manager", ManagerSettings.decode.check)]⟩

def decode : Decoder Settings := fun j => do
  let (fields, spelling) ← shape.entries j
  let batch ← Shape.defaulted fields "batch" BatchSettings.decode {}
  let results ← Shape.defaulted fields "results" ResultSettings.decode {}
  let splitter ← Shape.defaulted fields "splitter" SplitSettings.decode {}
  let manager ← Shape.defaulted fields "manager" ManagerSettings.decode {}
  shape.finish spelling
  pure ⟨batch, results, splitter, manager⟩

def encode (s : Settings) : Json :=
  .object
    [("batch", s.batch.encode),
      ("manager", s.manager.encode),
      ("results", s.results.encode),
      ("splitter", s.splitter.encode)]

end Settings

end AsyncReports
