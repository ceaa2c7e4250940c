import AsyncReports.Decoding

set_option autoImplicit false

/-!
# The life of a report run

A run is created here, submitted, worked on by the remote side, and ends completed, failed or skipped. The
transition table is the partial function `Status.step?`; `Status.run?` follows a whole list of events and
`Status.walk` follows it past refusals, which leave the status as it is.
-/

namespace AsyncReports

inductive Status
  | notStarted
  | started
  | running
  | completed
  | failed
  | skipped
deriving DecidableEq, Inhabited

namespace Status

/-- The name the remote side uses. -/
def text : Status → String
  | .notStarted => "Job Not Started"
  | .started => "Job Started"
  | .running => "Job Running"
  | .completed => "Job Completed"
  | .failed => "Job Failed"
  | .skipped => "Job Skipped"

/-- The short name used in listings of a value's fields. -/
def word : Status → String
  | .notStarted => "NotStarted"
  | .started => "Started"
  | .running => "Running"
  | .completed => "Completed"
  | .failed => "Failed"
  | .skipped => "Skipped"

def all : List Status := [.notStarted, .started, .running, .completed, .failed, .skipped]

/-- Only a reset leaves such a status. -/
def isTerminal : Status → Bool
  | .completed | .failed | .skipped => true
  | _ => false

/-- Failed and skipped runs are both treated as failures. -/
def isFailure : Status → Bool
  | .failed | .skipped => true
  | _ => false

/-- The remote side still works on the run. -/
def isActive : Status → Bool
  | .started | .running => true
  | _ => false

def ofText? (s : String) : Option Status := all.find? fun status => status.text = s

end Status

inductive Event
  /-- The run is submitted. -/
  | start
  /-- A status document came in. -/
  | observed (status : Status)
  /-- A failed run is cleared for another attempt. -/
  | reset
deriving DecidableEq

namespace Event

/-- The kind of event, for logs. -/
def kind : Event → String
  | .start => "start"
  | .observed _ => "status_observed"
  | .reset => "reset"

def isTerminal : Event → Bool
  | .observed status => status.isTerminal
  | _ => false

def word : Event → String
  | .start => "Start"
  | .observed status => "StatusObserved(" ++ status.word ++ ")"
  | .reset => "Reset"

end Event

namespace Status

/-- Where an event leads. The remote "not started" means that the run is queued, so the status stays. -/
def step? : Status → Event → Option Status
  | .notStarted, .start => some .started
  | .started, .observed .notStarted => some .started
  | .running, .observed .notStarted => some .running
  | .started, .observed status => some status
  | .running, .observed status => some status
  | .failed, .reset => some .notStarted
  | .skipped, .reset => some .notStarted
  | _, _ => none

/-- The text of a refusal. -/
def refusal (status : Status) (event : Event) : String :=
  "Invalid state transition from " ++ status.text ++ " on " ++ event.word

/-- Follows events, all of which must be accepted. -/
def run? (status : Status) : List Event → Option Status
  | [] => some status
  | event :: rest =>
    match status.step? event with
    | some next => next.run? rest
    | none => none

/-- Follows events; a refused one changes nothing. -/
def walk (status : Status) : List Event → Status
  | [] => status
  | event :: rest => ((status.step? event).getD status).walk rest

def names : List (String × Status) := all.map fun status => (status.text, status)

def decode : Decoder Status := Decoder.choice names

/-- The status inside an event's object is read more generously than one that stands alone. -/
def decodeInside : Decoder Status := Decoder.choiceWith Decoder.nothingOrEmpty names

def encode (status : Status) : Json := .text status.text

end Status

namespace Event

/-- The tag of an event, without what belongs to it. -/
inductive Tag
  | start
  | observed
  | reset
deriving DecidableEq

def tags : List (String × Tag) := [("Start", .start), ("StatusObserved", .observed), ("Reset", .reset)]

/-- An event is an object with its tag under `type` and its status under `data`, or a list of the two. The tag
comes first, wherever it stands, and in a list it is no more than a name; an event without a status takes null,
or nothing, in its place. -/
def decode : Decoder Event
  | .object fields =>
    match fields.lookup "type" with
    | none => .error (.missingField "type")
    | some tag => do
      match ← Decoder.choice tags tag, fields.lookup "data" with
      | .observed, some status => (Status.decodeInside status).map .observed
      | .observed, none => .error (.missingField "data")
      | .start, some j => bare j .start
      | .start, none => pure .start
      | .reset, some j => bare j .reset
      | .reset, none => pure .reset
  | .array [] => .error (.wrongLength 0 wanted)
  | .array (tag :: rest) => do
    let tag ← Decoder.name tags tag
    match rest with
    | [] => .error (.wrongLength 1 wanted)
    | data :: more => do
      let event ← match tag with
        | .observed => (Status.decode data).map .observed
        | .start => bare data .start
        | .reset => bare data .reset
      if more.isEmpty then pure event
      else .error (.wrongLength (more.length + 2) "fewer elements in array")
  | j => .error (.wrongType j.found wanted)
where
  wanted : String := "adjacently tagged enum JobEvent"
  bare (j : Json) (event : Event) : Except DecodeError Event :=
    match j with
    | .null => .ok event
    | j => .error (.wrongType j.found ("unit variant JobEvent::" ++ event.word))

def encode : Event → Json
  | .start => .object [("type", .text "Start")]
  | .observed status => .object [("data", status.encode), ("type", .text "StatusObserved")]
  | .reset => .object [("type", .text "Reset")]

end Event

end AsyncReports
