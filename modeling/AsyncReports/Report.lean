import AsyncReports.Interval
import AsyncReports.Lifecycle

set_option autoImplicit false

/-!
# Reports

What is exchanged with the remote side: the entity a report is about, its parameters, the run that computes it,
its rows, and the load the remote side reports. Parameters keep every field they do not know, so that it reaches
the remote side unchanged.
-/

namespace AsyncReports

/-- How fine a report is, and the kind of entity it can be about. -/
inductive Level
  | account
  | campaign
  | adset
  | ad
deriving DecidableEq

namespace Level

def text : Level → String
  | .account => "account"
  | .campaign => "campaign"
  | .adset => "adset"
  | .ad => "ad"

/-- The name used in listings of a value's fields. -/
def word : Level → String
  | .account => "Account"
  | .campaign => "Campaign"
  | .adset => "Adset"
  | .ad => "Ad"

/-- The row field that holds the identifier at this level. -/
def idField : Level → String
  | .account => "account_id"
  | .campaign => "campaign_id"
  | .adset => "adset_id"
  | .ad => "ad_id"

def all : List Level := [.account, .campaign, .adset, .ad]

def decode : Decoder Level := Decoder.choice (all.map fun level => (level.text, level))

def encode (level : Level) : Json := .text level.text

end Level

/-- The remote entity that a report is about. -/
structure Edge where
  level : Level
  id : String
deriving DecidableEq

namespace Edge

def account (id : String) : Edge := ⟨.account, id⟩

def campaign (id : String) : Edge := ⟨.campaign, id⟩

def text (e : Edge) : String := e.level.text ++ "(" ++ e.id ++ ")"

def shape : Shape := ⟨"EdgeObject", [("level", Level.decode.check), ("id", Decoder.text.check)]⟩

def decode : Decoder Edge := fun j => do
  let (fields, spelling) ← shape.entries j
  let level ← shape.required spelling fields "level" Level.decode
  let id ← shape.required spelling fields "id" Decoder.text
  shape.finish spelling
  pure ⟨level, id⟩

def encode (e : Edge) : Json := .object [("id", .text e.id), ("level", e.level.encode)]

end Edge

/-- A result row, or any object that is passed on as it is. -/
abbrev Row := List (String × Json)

def Row.decode : Decoder Row := Decoder.object

/-- The parameters of a report request. -/
structure Params where
  level : Level
  fields : List String
  breakdowns : List String := []
  actionBreakdowns : List String := []
  attributionWindows : List String := []
  /-- Days per row; unset, a row covers the whole window. -/
  increment : Option Nat := none
  window : Option Window := none
  /-- Fields that only pass through. -/
  extra : Row := []

namespace Params

def shape : Shape :=
  ⟨"ReportParams",
    [("level", Level.decode.check),
      ("fields", (Decoder.list Decoder.text).check),
      ("breakdowns", (Decoder.list Decoder.text).check),
      ("action_breakdowns", (Decoder.list Decoder.text).check),
      ("action_attribution_windows", (Decoder.list Decoder.text).check),
      ("time_increment", (Decoder.optional Decoder.count).check),
      ("time_range", (Decoder.optional Window.decode).check)]⟩

/-- A field name that the parameters themselves declare. -/
def declares (name : String) : Bool := (shape.fields.lookup name).isSome

/-- Parameters are always an object, since the fields that pass through have no place in a list. -/
def decode : Decoder Params
  | .object fields => do
    shape.checkFields [] fields
    let level ← shape.required .named fields "level" Level.decode
    let names ← shape.required .named fields "fields" (Decoder.list Decoder.text)
    let breakdowns ← Shape.defaulted fields "breakdowns" (Decoder.list Decoder.text) []
    let actions ← Shape.defaulted fields "action_breakdowns" (Decoder.list Decoder.text) []
    let windows ← Shape.defaulted fields "action_attribution_windows" (Decoder.list Decoder.text) []
    let increment ← Shape.defaulted fields "time_increment" (Decoder.optional Decoder.count) none
    let window ← Shape.defaulted fields "time_range" (Decoder.optional Window.decode) none
    pure ⟨level, names, breakdowns, actions, windows, increment, window,
      fields.filter fun field => !declares field.1⟩
  | j => .error (.wrongType j.found ("struct " ++ shape.name))

def encodeTexts (items : List String) : Json := .array (items.map .text)

/-- The declared fields that are written, by name. -/
def declared (p : Params) : Row :=
  [("level", p.level.encode),
    ("fields", encodeTexts p.fields),
    ("breakdowns", encodeTexts p.breakdowns),
    ("action_breakdowns", encodeTexts p.actionBreakdowns),
    ("action_attribution_windows", encodeTexts p.attributionWindows)] ++
  (p.increment.map fun days => ("time_increment", Json.nat days)).toList ++
  (p.window.map fun window => ("time_range", window.encode)).toList

/-- The declared fields take their places among the others. -/
def encode (p : Params) : Json :=
  .object (p.declared.foldr (fun field fields => Json.insertField field.1 field.2 fields) p.extra)

end Params

/-- The latest that is known of a run. -/
structure Run where
  id : String
  status : Status := .notStarted
  /-- How far the run is, in percent; for messages only. -/
  percent : Float := 0
  dateStart : Option Date := none
  dateStop : Option Date := none

namespace Run

def shape : Shape :=
  ⟨"ReportRun",
    [("report_run_id", Decoder.text.check),
      ("async_status", Status.decode.check),
      ("async_percent_completion", Decoder.float.check),
      ("date_start", (Decoder.optional Decoder.date).check),
      ("date_stop", (Decoder.optional Decoder.date).check)]⟩

/-- Status documents call the identifier of a run simply `id`; it counts as the field `report_run_id`. -/
def rename : Json → Json
  | .object fields =>
    .object (fields.map fun field => (if field.1 = "id" then "report_run_id" else field.1, field.2))
  | j => j

def decode : Decoder Run := fun j => do
  let (fields, spelling) ← shape.entries (rename j)
  let id ← shape.required spelling fields "report_run_id" Decoder.text
  let status ← Shape.defaulted fields "async_status" Status.decode .notStarted
  let percent ← Shape.defaulted fields "async_percent_completion" Decoder.float 0
  let dateStart ← Shape.defaulted fields "date_start" (Decoder.optional Decoder.date) none
  let dateStop ← Shape.defaulted fields "date_stop" (Decoder.optional Decoder.date) none
  shape.finish spelling
  pure ⟨id, status, percent, dateStart, dateStop⟩

def encodeOptionalDate : Option Date → Json
  | none => .null
  | some d => encodeDate d

/-- A percentage that is not finite has no written form. -/
def encodeFloat (x : Float) : Json := if x.isFinite then .float x else .null

def encode (r : Run) : Json :=
  .object
    [("async_percent_completion", encodeFloat r.percent),
      ("async_status", r.status.encode),
      ("date_start", encodeOptionalDate r.dateStart),
      ("date_stop", encodeOptionalDate r.dateStop),
      ("report_run_id", .text r.id)]

end Run

/-- The load that the remote side reports, in percent. -/
structure Throttle where
  perApplication : Float := 0
  perAccount : Float := 0

namespace Throttle

def shape : Shape :=
  ⟨"InsightsThrottle", [("per_application", Decoder.float.check), ("per_account", Decoder.float.check)]⟩

def decode : Decoder Throttle := fun j => do
  let (fields, spelling) ← shape.entries j
  let perApplication ← shape.required spelling fields "per_application" Decoder.float
  let perAccount ← shape.required spelling fields "per_account" Decoder.float
  shape.finish spelling
  pure ⟨perApplication, perAccount⟩

def encode (t : Throttle) : Json :=
  .object [("per_account", .float t.perAccount), ("per_application", .float t.perApplication)]

/-- The smaller of the two loads, since the one of the account cools down very slowly. A reading that is not a
number gives way to the other, and of two zeros that of the account counts. -/
def current (t : Throttle) : Float :=
  if t.perAccount.isNaN || t.perApplication < t.perAccount then t.perApplication else t.perAccount

end Throttle

end AsyncReports
