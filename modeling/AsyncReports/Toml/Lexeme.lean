import AsyncReports.Date
import AsyncReports.Json
import AsyncReports.Decimal.Numeral

set_option autoImplicit false

/-!
# Words of the table format

Blanks, comments, keys, texts, numbers and dates. Every reading function takes its word from the front of the
text and gives back the rest.
-/

namespace AsyncReports.Toml

open Text

def isBlank (c : Char) : Bool := c = ' ' || c = '\t'

def skipBlanks (s : List Char) : List Char := s.dropWhile isBlank

/-- No control character but the tab may stand in a comment or a text. -/
def isPrintable (c : Char) : Bool := c = '\t' || (0x20 ≤ c.toNat && c.toNat ≠ 0x7f)

def readNewline? : List Char → Option (List Char)
  | '\n' :: rest => some rest
  | '\r' :: '\n' :: rest => some rest
  | _ => none

def skipComment : List Char → List Char
  | '#' :: rest => rest.dropWhile isPrintable
  | s => s

/-- The end of a line: blanks, a comment, and a line break or the end of the text. -/
def readLineEnd? (s : List Char) : Option (List Char) :=
  match skipComment (skipBlanks s) with
  | [] => some []
  | s => readNewline? s

/-- Skips blanks, comments and line breaks. -/
def skipLines : Nat → List Char → List Char
  | 0, s => s
  | fuel + 1, s =>
    let rest := skipComment (skipBlanks s)
    match readNewline? rest with
    | some rest => skipLines fuel rest
    | none => rest

/-- What follows a backslash. -/
def readEscape : List Char → Option (Char × List Char)
  | 'b' :: rest => some ('\x08', rest)
  | 't' :: rest => some ('\t', rest)
  | 'n' :: rest => some ('\n', rest)
  | 'f' :: rest => some ('\x0c', rest)
  | 'r' :: rest => some ('\r', rest)
  | '"' :: rest => some ('"', rest)
  | '\\' :: rest => some ('\\', rest)
  | 'u' :: rest => readCode 4 rest
  | 'U' :: rest => readCode 8 rest
  | _ => none

/-- The rest of a text on one line in double quotes. -/
def readBasic : Nat → List Char → List Char → Option (String × List Char)
  | 0, _, _ => none
  | _, _, [] => none
  | fuel + 1, done, c :: rest =>
    if c = '"' then some (String.ofList done.reverse, rest)
    else if c = '\\' then (readEscape rest).bind fun (c, rest) => readBasic fuel (c :: done) rest
    else if isPrintable c then readBasic fuel (c :: done) rest
    else none

/-- The rest of a text on one line in single quotes. -/
def readLiteral (s : List Char) : Option (String × List Char) :=
  match s.dropWhile fun c => c ≠ '\'' && isPrintable c with
  | '\'' :: rest => some (String.ofList (s.takeWhile (· ≠ '\'')), rest)
  | _ => none

/-- A backslash at the end of a line, with all blanks and line breaks after it. -/
def skipFold? (s : List Char) : Option (List Char) :=
  (readNewline? (skipBlanks s)).map fun rest =>
    rest.dropWhile fun c => isBlank c || c = '\n' || c = '\r'

/-- The rest of a text over several lines. Up to two quotes may stand before the closing three. -/
def readBlock (mark : Char) : Nat → List Char → List Char → Option (String × List Char)
  | 0, _, _ => none
  | _, _, [] => none
  | fuel + 1, done, c :: rest =>
    if c = mark then
      let quotes := (c :: rest).takeWhile (· = mark)
      if quotes.length < 3 then readBlock mark fuel (c :: done) rest
      else
        let taken := min quotes.length 5
        some (String.ofList (quotes.take (taken - 3) ++ done).reverse, (c :: rest).drop taken)
    else if c = '\\' && mark = '"' then
      match skipFold? rest with
      | some rest => readBlock mark fuel done rest
      | none => (readEscape rest).bind fun (c, rest) => readBlock mark fuel (c :: done) rest
    else
      match readNewline? (c :: rest) with
      | some rest => readBlock mark fuel ('\n' :: done) rest
      | none => if isPrintable c then readBlock mark fuel (c :: done) rest else none

/-- A line break right after the opening quotes does not belong to the text. -/
def readBlockFrom (mark : Char) (s : List Char) : Option (String × List Char) :=
  let s := (readNewline? s).getD s
  readBlock mark (s.length + 1) [] s

def readText? : List Char → Option (String × List Char)
  | '"' :: '"' :: '"' :: rest => readBlockFrom '"' rest
  | '"' :: rest => readBasic (rest.length + 1) [] rest
  | '\'' :: '\'' :: '\'' :: rest => readBlockFrom '\'' rest
  | '\'' :: rest => readLiteral rest
  | _ => none

def isKeyChar (c : Char) : Bool := c.isAlphanum || c = '_' || c = '-'

/-- One part of a key. -/
def readKeyPart : List Char → Option (String × List Char)
  | '"' :: rest => readBasic (rest.length + 1) [] rest
  | '\'' :: rest => readLiteral rest
  | s =>
    let name := s.takeWhile isKeyChar
    if name.isEmpty then none else some (String.ofList name, s.dropWhile isKeyChar)

/-- The most parts that a key may have. -/
def maxKeyParts : Nat := 79

/-- A key: parts with points between them, at most so many. -/
def readKey : Nat → List Char → Option (List String × List Char)
  | 0, _ => none
  | fuel + 1, s => do
    let (name, rest) ← readKeyPart (skipBlanks s)
    match skipBlanks rest with
    | '.' :: rest => do
      let (names, rest) ← readKey fuel rest
      some (name :: names, rest)
    | rest => some ([name], rest)

/-- A run of digits; single underscores may stand between them. -/
def digitRun (digit : Char → Bool) : List Char → List Char × List Char
  | [] => ([], [])
  | '_' :: c :: rest =>
    if digit c then
      let (more, after) := digitRun digit rest
      (c :: more, after)
    else ([], '_' :: c :: rest)
  | c :: rest =>
    if digit c then
      let (more, after) := digitRun digit rest
      (c :: more, after)
    else ([], c :: rest)

/-- Such a run that starts with a digit. -/
def digitRun? (digit : Char → Bool) (s : List Char) : Option (List Char × List Char) :=
  match s with
  | c :: _ => if digit c then some (digitRun digit s) else none
  | [] => none

/-- The digits before the point; a zero stands alone. -/
def readDigits? : List Char → Option (List Char × List Char)
  | '0' :: rest => some (['0'], rest)
  | s => digitRun? isDigit s

def isBinary (c : Char) : Bool := c = '0' || c = '1'

def isOctal (c : Char) : Bool := '0' ≤ c && c ≤ '7'

def isHex (c : Char) : Bool := (hexValue? c).isSome

/-- A whole number in another base. -/
def readBased (base : Nat) (digit : Char → Bool) (s : List Char) : Option (Int × List Char) :=
  (digitRun? digit s).map fun (digits, rest) =>
    (digits.foldl (fun n c => base * n + (hexValue? c).getD 0) (0 : Nat), rest)

/-- A whole number of 64 bits. -/
def readInteger? (s : List Char) : Option (Int × List Char) := do
  let (n, rest) ← match s with
    | '0' :: 'x' :: rest => readBased 16 isHex rest
    | '0' :: 'o' :: rest => readBased 8 isOctal rest
    | '0' :: 'b' :: rest => readBased 2 isBinary rest
    | s => do
      let (negative, s) := Decimal.readSign s
      let (digits, rest) ← readDigits? s
      some (if negative then -(ofDigits digits : Int) else ofDigits digits, rest)
  if Width.holdsSigned 64 n then some (n, rest) else none

def readFraction? : List Char → Option (List Char × List Char)
  | '.' :: rest => digitRun? isDigit rest
  | _ => none

def readExponent? : List Char → Option (Int × List Char)
  | c :: rest =>
    if c = 'e' || c = 'E' then
      let (negative, rest) := Decimal.readSign rest
      (digitRun? isDigit rest).map fun (digits, rest) =>
        (if negative then -(ofDigits digits : Int) else ofDigits digits, rest)
    else none
  | [] => none

/-- A number with a fraction or an exponent, or a word for infinity or for no number. One that is too large is
refused, unless it is negative. -/
def readFloat? (s : List Char) : Option (Float × List Char) :=
  let (negative, s) := Decimal.readSign s
  match s with
  | 'i' :: 'n' :: 'f' :: rest => some (Decimal.signed negative Decimal.infinity, rest)
  | 'n' :: 'a' :: 'n' :: rest => some (0.0 / 0.0, rest)
  | s => do
    let (whole, rest) ← readDigits? s
    let (fraction, rest) := (readFraction? rest).getD ([], rest)
    let (exponent, after) ← match readExponent? rest with
      | some found => some found
      | none => if fraction.isEmpty then none else some (0, rest)
    let n : Decimal.Numeral := ⟨negative, ofDigits (whole ++ fraction), exponent - fraction.length⟩
    if !negative && n.bits = Decimal.infinityBits then none else some (n.toFloat, after)

/-- So many digits whose number lies between two bounds. -/
def readPart (width low high : Nat) (s : List Char) : Option (Nat × List Char) :=
  let digits := s.take width
  if digits.length = width && digits.all isDigit && low ≤ ofDigits digits && ofDigits digits ≤ high then
    some (ofDigits digits, s.drop width)
  else none

def readMark (mark : Char) : List Char → Option (List Char)
  | c :: rest => if c = mark then some rest else none
  | [] => none

/-- A calendar date; what follows it is left. -/
def skipDate? (s : List Char) : Option (List Char) := do
  let (year, s) ← readPart 4 0 9999 s
  let (month, s) ← readPart 2 1 12 (← readMark '-' s)
  let (_, s) ← readPart 2 1 (Civil.monthLength year month) (← readMark '-' s)
  some s

/-- A time of day, to the second or finer. -/
def skipTime? (s : List Char) : Option (List Char) := do
  let (_, s) ← readPart 2 0 23 s
  let (_, s) ← readPart 2 0 59 (← readMark ':' s)
  let (_, s) ← readPart 2 0 60 (← readMark ':' s)
  match s with
  | '.' :: c :: rest => if isDigit c then some (rest.dropWhile isDigit) else some s
  | s => some s

/-- How far a time is from the reference time; it may be left out. -/
def skipOffset : List Char → List Char
  | 'Z' :: rest | 'z' :: rest => rest
  | s =>
    let found : Option (List Char) := do
      let s ← (readMark '+' s).or (readMark '-' s)
      let (_, s) ← readPart 2 0 23 s
      let (_, s) ← readPart 2 0 59 (← readMark ':' s)
      some s
    found.getD s

/-- A date, a time, or both. -/
def skipMoment? (s : List Char) : Option (List Char) :=
  match skipDate? s with
  | none => skipTime? s
  | some rest =>
    match rest with
    | c :: more =>
      if c = 'T' || c = 't' || c = ' ' then
        match skipTime? more with
        | some after => some (skipOffset after)
        | none => some rest
      else some rest
    | [] => some rest

/-- A date or a time is kept as it is spelled. -/
def readMoment? (s : List Char) : Option (String × List Char) :=
  (skipMoment? s).map fun rest => (String.ofList (s.take (s.length - rest.length)), rest)

end AsyncReports.Toml
