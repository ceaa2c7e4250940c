import AsyncReports.Settings
import AsyncReports.Text
import AsyncReports.Decimal.Numeral

set_option autoImplicit false

/-!
# Settings as people write them

Sources spell values in many ways: a number may be a text or a truth value, and a whole number may be a
fraction, which is rounded. A value that cannot be taken for what its setting needs makes the whole tree
unusable; names that mean nothing here are passed over.
-/

namespace AsyncReports

namespace Lenient

/-- The words for yes and no. -/
def word? (s : String) : Option Bool :=
  match Text.lower s with
  | "true" | "on" | "yes" => some true
  | "false" | "off" | "no" => some false
  | _ => none

/-- A whole number without a minus sign. -/
def unsigned? (s : List Char) : Option Nat :=
  if s.head? = some '-' then none else (Decimal.readWhole? s).map Int.toNat

/-- The nearest whole number of 64 bits, a half away from zero. -/
def rounded (x : Float) : Nat := x.round.toUInt64.toNat

/-- A number as a whole number of 64 bits. Whole numbers are signed; one beyond 63 bits is held as a double. -/
def whole? : Json → Option Nat
  | .bool b => some b.toNat
  | .int n =>
    if n < 0 then none
    else if Width.holdsSigned 64 n then some n.toNat
    else some (rounded (Float.ofInt n))
  | .float x => some (rounded x)
  | .text s =>
    match word? s with
    | some b => some b.toNat
    | none => (unsigned? s.toList).filter (· < Width.capacity 64)
  | _ => none

def below? (limit : Nat) (j : Json) : Option Nat := (whole? j).filter (· < limit)

def float? : Json → Option Float
  | .bool b => some (if b then 1 else 0)
  | .int n => some (Float.ofInt n)
  | .float x => some x
  | .text s =>
    match word? s with
    | some b => some (if b then 1 else 0)
    | none => Decimal.readFloat? s.toList
  | _ => none

/-- A level by its name in any letter case, or by the only entry of a table. -/
def level? : Json → Option Level
  | .text s => named? s
  | .object [(s, _)] => named? s
  | _ => none
where
  named? (s : String) : Option Level := Level.all.find? fun level => level.text = Text.lower s

/-- The settings of a section: a table of them, or a list in declared order. An absent section has none. -/
def section? (names : List String) : Option Json → Option (List (String × Json))
  | none => some []
  | some (.object fields) => some fields
  | some (.array values) => some (names.zip values)
  | some _ => none

/-- A setting of a section, or its default. -/
def setting? {α : Type} (fields : List (String × Json)) (name : String) (convert : Json → Option α)
    (value : α) : Option α :=
  match fields.lookup name with
  | some j => convert j
  | none => some value

end Lenient

open Lenient

def BatchSettings.ofTree? (tree : Option Json) : Option BatchSettings := do
  let fields ← section? (shape.fields.map Prod.fst) tree
  let maxCalls ← setting? fields "max_calls_per_batch" whole? Limits.callsPerBatch
  pure ⟨maxCalls⟩

def ResultSettings.ofTree? (tree : Option Json) : Option ResultSettings := do
  let fields ← section? (shape.fields.map Prod.fst) tree
  let pageSize ← setting? fields "page_size" whole? Limits.resultPageSize
  pure ⟨pageSize⟩

def SplitSettings.ofTree? (tree : Option Json) : Option SplitSettings := do
  let fields ← section? (shape.fields.map Prod.fst) tree
  let windowDays ← setting? fields "attribution_window_days" (below? (Width.capacity 32)) Limits.attributionDays
  let level ← setting? fields "partition_level" level? .campaign
  pure ⟨windowDays, level⟩

def ManagerSettings.ofTree? (tree : Option Json) : Option ManagerSettings := do
  let fields ← section? (shape.fields.map Prod.fst) tree
  let throttleLimit ← setting? fields "throttle_limit" float? Limits.throttle
  let maxAttempts ← setting? fields "max_attempts" (below? (Width.capacity 32)) Limits.attempts
  let pollSeconds ← setting? fields "status_poll_interval_seconds" whole? Limits.pollSeconds
  let maxQueue ← setting? fields "max_jobs_in_queue" whole? Limits.queue
  let maxChecks ← setting? fields "max_jobs_to_check" whole? Limits.checks
  pure ⟨throttleLimit, maxAttempts, pollSeconds, maxQueue, maxChecks⟩

/-- The settings that a merged tree spells. -/
def Settings.ofTree? (tree : Json) : Option Settings := do
  let batch ← BatchSettings.ofTree? (tree.get? "batch")
  let results ← ResultSettings.ofTree? (tree.get? "results")
  let splitter ← SplitSettings.ofTree? (tree.get? "splitter")
  let manager ← ManagerSettings.ofTree? (tree.get? "manager")
  pure ⟨batch, results, splitter, manager⟩

end AsyncReports
