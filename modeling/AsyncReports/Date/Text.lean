import AsyncReports.Date
import AsyncReports.Text

set_option autoImplicit false

/-!
# Dates as text

A date is written `YYYY-MM-DD`. A year outside 0 to 9999 carries its sign, and every year has at least four
digits. Reading is more generous than writing: white space may stand before each number and each hyphen and at
the end, a year may have fewer digits, or more after a sign, and month and day may have one digit.
-/

namespace AsyncReports

/-- Why a text is no date. -/
inductive DateError
  | malformed
  | tooShort
  | tooLong
  | outOfRange
deriving DecidableEq

def DateError.message : DateError → String
  | .malformed => "input contains invalid characters"
  | .tooShort => "premature end of input"
  | .tooLong => "trailing input"
  | .outOfRange => "input is out of range"

namespace Date

/-- Decimal digits, padded with zeros to a width. -/
def padded (width n : Nat) : List Char :=
  let digits := Nat.toDigits 10 n
  List.replicate (width - digits.length) '0' ++ digits

def writeYear (year : Int) : List Char :=
  if year < 0 then '-' :: padded 4 year.natAbs
  else if year < 10000 then padded 4 year.natAbs
  else '+' :: padded 4 year.natAbs

def write (d : Date) : List Char :=
  let c := d.civil
  writeYear c.year ++ '-' :: padded 2 c.month ++ '-' :: padded 2 c.day

def text (d : Date) : String := String.ofList d.write

/-- A number of at least one digit, and of at most `width` digits where a width is given. -/
def readNumber (width : Option Nat) (s : List Char) : Except DateError (Nat × List Char) :=
  if s.isEmpty then .error .tooShort
  else
    let digits := (match width with | some w => s.take w | none => s).takeWhile Text.isDigit
    if digits.isEmpty then .error .malformed
    else .ok (Text.ofDigits digits, s.drop digits.length)

/-- A signed year may have any number of digits, an unsigned one at most four. -/
def readYear (s : List Char) : Except DateError (Int × List Char) := do
  let (year, s) ← match Text.dropBlanks s with
    | '-' :: s => do
      let (n, s) ← readNumber none s
      pure (-(n : Int), s)
    | '+' :: s => do
      let (n, s) ← readNumber none s
      pure ((n : Int), s)
    | s => do
      let (n, s) ← readNumber (some 4) s
      pure ((n : Int), s)
  if !Width.holdsSigned 32 year then .error .outOfRange
  pure (year, s)

/-- A month or a day: a number from one to `greatest`. -/
def readPart (greatest : Nat) (s : List Char) : Except DateError (Nat × List Char) := do
  let (n, s) ← readNumber (some 2) (Text.dropBlanks s)
  if n < 1 ∨ greatest < n then .error .outOfRange
  pure (n, s)

def readHyphen (s : List Char) : Except DateError (List Char) :=
  match Text.dropBlanks s with
  | [] => .error .tooShort
  | '-' :: s => .ok s
  | _ => .error .malformed

def read (s : List Char) : Except DateError Date := do
  let (year, s) ← readYear s
  let s ← readHyphen s
  let (month, s) ← readPart 12 s
  let s ← readHyphen s
  let (day, s) ← readPart 31 s
  if !(Text.dropBlanks s).isEmpty then .error .tooLong
  match ofCivil? ⟨year, month, day⟩ with
  | some d => pure d
  | none => .error .outOfRange

def ofText (s : String) : Except DateError Date := read s.toList

end Date

end AsyncReports
