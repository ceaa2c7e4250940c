import AsyncReports.Decimal.Numeral
import AsyncReports.Log
import AsyncReports.Log.Pattern
import AsyncReports.Text
import AsyncReports.Text.Letters

set_option autoImplicit false

/-!
# Log filters

A filter is a list of directives, each of which sets how talkative the entries of a source may be. Of the
directives that apply to an entry the most specific one decides: the one with the longest source, then the one
that names a field. A directive that is bound to a span, by its name or by the value of a field, never lets an entry
through here, since nothing is logged inside of spans.
-/

namespace AsyncReports

/-- The greatest rank of a level that passes; zero lets nothing through. -/
abbrev LogThreshold := Nat

/-- A level by number or by name, in any letter case. -/
def LogThreshold.ofText? (s : List Char) : Option LogThreshold :=
  let digits := match s with
    | '+' :: rest => rest
    | s => s
  if !digits.isEmpty && digits.all Text.isDigit then
    let n := Text.ofDigits digits
    if n ≤ 5 then some n else none
  else
    [("", 1), ("error", 1), ("warn", 2), ("info", 3), ("debug", 4), ("trace", 5), ("off", 0)].lookup
      (String.ofList (s.map Char.toLower))

structure LogDirective where
  source : Option String := none
  field : Option String := none
  threshold : LogThreshold := 5
  /-- The directive holds only inside of a span. -/
  inSpan : Bool := false

namespace LogDirective

/-- Where the reader of a directive stands. The numbers say where a part has started, in bytes. -/
inductive Place
  | start
  | source (first : Nat)
  | span (first : Nat)
  | field (first : Nat)
  | afterField
  | afterSpan
  | level (first : Nat)

/-- The part of a text from one byte to another. -/
def slice (s : List Char) (first stop : Nat) : List Char :=
  match s with
  | [] => []
  | c :: rest =>
    let more := slice rest (first - c.utf8Size) (stop - c.utf8Size)
    if first = 0 && 0 < stop then c :: more else more

/-- A value that a field may have to have: a truth value, a number, or a pattern. -/
def isValue (s : List Char) : Bool :=
  s = "true".toList || s = "false".toList || (Decimal.readFloat? s).isSome || LogPattern.isPattern s

/-- A field, perhaps with the value that it has to have. What follows a second sign of equality does not count. -/
def withField (d : LogDirective) (s : List Char) : Option LogDirective :=
  match s.dropWhile (· ≠ '=') with
  | [] => if s.isEmpty then none else some { d with field := some (String.ofList s) }
  | _ :: value => if isValue (value.takeWhile (· ≠ '=')) then some { d with inSpan := true } else none

/-- A source where there is no level, or a level alone. -/
def withEither (d : LogDirective) (s : List Char) : LogDirective :=
  match LogThreshold.ofText? s with
  | some threshold => { d with threshold }
  | none => { d with source := some (String.ofList s) }

/-- Takes the character at a byte of the trimmed text `s`. Its parts are cut from `whole`, the text as it was given,
at the same bytes, so that blanks before it shift them. -/
def step (whole : List Char) (i : Nat) (c : Char) (d : LogDirective) (place : Place) :
    Option (LogDirective × Place) :=
  match place with
  | .start =>
    if c = '[' then some (d, .span (i + 1))
    else if c = '-' || c = ':' || c = '_' || Text.isAlphanumeric c then some (d, .source i)
    else none
  | .source first =>
    if c = '=' then some ({ d with source := some (String.ofList (slice whole first i)) }, .level (i + 1))
    else if c = '[' then some ({ d with source := some (String.ofList (slice whole first i)) }, .span (i + 1))
    else some (d, .source first)
  | .span first =>
    if c = ']' then some ({ d with inSpan := true }, .afterSpan)
    else if c = '\x7b' then
      some ({ d with inSpan := d.inSpan || !(slice whole first i).isEmpty }, .field (i + 1))
    else some (d, .span first)
  | .field first =>
    if c = '\x7d' then (d.withField (slice whole first i)).map (·, .afterField) else some (d, .field first)
  | .afterField => if c = ']' then some (d, .afterSpan) else none
  | .afterSpan => if c = '=' then some (d, .level (i + 1)) else none
  | .level first => some (d, .level first)

/-- Takes the end of the text. -/
def finish (whole : List Char) (d : LogDirective) (place : Place) : Option LogDirective :=
  let rest (first : Nat) : List Char := slice whole first (String.ofList whole).utf8ByteSize
  match place with
  | .source first => some (d.withEither (rest first))
  | .level first =>
    if (rest first).isEmpty then some d
    else (LogThreshold.ofText? (rest first)).map fun threshold => { d with threshold }
  | .afterSpan => some d
  | _ => none

def steps (whole : List Char) (d : LogDirective) (place : Place) (i : Nat) : List Char → Option LogDirective
  | [] => finish whole d place
  | c :: rest => (step whole i c d place).bind fun (d, place) => steps whole d place (i + c.utf8Size) rest

def ofText? (s : List Char) : Option LogDirective := steps s {} .start 0 (Text.trim s)

def applies (d : LogDirective) (source : String) (e : LogEntry) : Bool :=
  !d.inSpan && (d.source.all fun wanted => source.startsWith wanted) && d.field.all fun field => e.hasField field

/-- The length of the source, counted from one where there is one. -/
def weight (d : LogDirective) : Nat :=
  match d.source with
  | none => 0
  | some source => source.utf8ByteSize + 1

/-- Of two directives that both apply to an entry the first is at least as specific as the second. The names of
fields decide last. -/
def outweighs (a b : LogDirective) : Bool :=
  b.weight < a.weight || b.weight = a.weight &&
    match a.field, b.field with
    | some x, some y => y ≤ x
    | none, some _ => false
    | _, none => true

end LogDirective

/-- Directives in the order in which they were given. -/
abbrev LogFilter := List LogDirective

namespace LogFilter

/-- Directives separated by commas; one that cannot be read spoils all. -/
def ofText? (s : String) : Option LogFilter :=
  ((s.splitOn ",").filter (!·.isEmpty)).mapM fun s => LogDirective.ofText? s.toList

/-- Among equally specific directives the later one counts. -/
def decisive (filter : LogFilter) (source : String) (e : LogEntry) : Option LogDirective :=
  filter.foldl (fun best d =>
    if d.applies source e then
      match best with
      | none => some d
      | some b => if d.outweighs b then some d else best
    else best) none

def passes (filter : LogFilter) (source : String) (e : LogEntry) : Bool :=
  match filter.decisive source e with
  | some d => e.level.rank ≤ d.threshold
  | none => false

end LogFilter

end AsyncReports
