import AsyncReports.Decoding

set_option autoImplicit false

/-!
# Reporting intervals and windows

An interval is the closed range of dates that a job reports on; the window is the same range as it is sent with a
request. `Interval.ofDates?` refuses reversed dates. Decoding a document does not, so an interval need not be
ordered.
-/

namespace AsyncReports

/-- The range sent with a request. -/
structure Window where
  first : Date
  last : Date
deriving DecidableEq

structure Interval where
  start : Date
  stop : Date
deriving DecidableEq

/-- The listing of two dates in messages. -/
def rangeText (first last : Date) : String := "[" ++ first.text ++ " -> " ++ last.text ++ "]"

def encodeDate (d : Date) : Json := .text d.text

namespace Window

def text (w : Window) : String := rangeText w.first w.last

def shape : Shape := ⟨"TimeRange", [("since", Decoder.date.check), ("until", Decoder.date.check)]⟩

def decode : Decoder Window := fun j => do
  let (fields, spelling) ← shape.entries j
  let first ← shape.required spelling fields "since" Decoder.date
  let last ← shape.required spelling fields "until" Decoder.date
  shape.finish spelling
  pure ⟨first, last⟩

def encode (w : Window) : Json :=
  .object [("since", encodeDate w.first), ("until", encodeDate w.last)]

end Window

namespace Interval

def ofDates? (start stop : Date) : Option Interval :=
  if stop < start then none else some ⟨start, stop⟩

/-- One day. -/
def day (d : Date) : Interval := ⟨d, d⟩

/-- What identifies a job over the interval, through restarts and splits. -/
def key (i : Interval) : String := i.start.text

def window (i : Interval) : Window := ⟨i.start, i.stop⟩

def text (i : Interval) : String := rangeText i.start i.stop

def shape : Shape := ⟨"DateInterval", [("start", Decoder.date.check), ("end", Decoder.date.check)]⟩

def decode : Decoder Interval := fun j => do
  let (fields, spelling) ← shape.entries j
  let start ← shape.required spelling fields "start" Decoder.date
  let stop ← shape.required spelling fields "end" Decoder.date
  shape.finish spelling
  pure ⟨start, stop⟩

def encode (i : Interval) : Json :=
  .object [("end", encodeDate i.stop), ("start", encodeDate i.start)]

end Interval

end AsyncReports
