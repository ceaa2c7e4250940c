import AsyncReports.Json
import AsyncReports.Decimal.Numeral
import AsyncReports.Text
import AsyncReports.Text.Letters

set_option autoImplicit false

/-!
# Words of the relaxed document format

Blanks, comments, texts in either kind of quotes, names without quotes, and numbers. Every reading function takes
its word from the front of the text and gives back the rest.
-/

namespace AsyncReports.Json5

open Text

def isLineEnd (c : Char) : Bool := c = '\n' || c = '\r' || c = '\u2028' || c = '\u2029'

/-- Blanks are all the spaces that there are, and a mark of the byte order. -/
def isBlank (c : Char) : Bool := c ≠ '\u0085' && Text.isBlank c || c = '\ufeff'

/-- What follows the end of a comment. -/
def closeComment : List Char → Option (List Char)
  | '*' :: '/' :: rest => some rest
  | _ :: rest => closeComment rest
  | [] => none

/-- Goes over blanks and comments. -/
def skipBlanks : Nat → List Char → List Char
  | 0, s => s
  | fuel + 1, s =>
    match s.dropWhile isBlank with
    | '/' :: '/' :: rest => skipBlanks fuel (rest.dropWhile (!isLineEnd ·))
    | '/' :: '*' :: rest =>
      match closeComment rest with
      | some rest => skipBlanks fuel rest
      | none => '/' :: '*' :: rest
    | s => s

def skip (s : List Char) : List Char := skipBlanks (s.length + 1) s

/-- The character behind `\u`; a pair of surrogates is one character, and a single one is none. -/
def readUnit (s : List Char) : Option (Char × List Char) := do
  let (first, rest) ← readHex 4 0 s
  if 0xDC00 ≤ first && first ≤ 0xDFFF then none
  if 0xD800 ≤ first && first ≤ 0xDBFF then
    match rest with
    | '\\' :: 'u' :: rest =>
      let (second, rest) ← readHex 4 0 rest
      if second < 0xDC00 || 0xDFFF < second then none
      some (Char.ofNat (0x10000 + (first - 0xD800) * 0x400 + (second - 0xDC00)), rest)
    | _ => none
  else some (Char.ofNat first, rest)

/-- What stands for the characters behind a backslash. A line break is taken away. -/
def readEscape : List Char → Option (List Char × List Char)
  | [] => none
  | 'b' :: rest => some (['\x08'], rest)
  | 'f' :: rest => some (['\x0c'], rest)
  | 'n' :: rest => some (['\n'], rest)
  | 'r' :: rest => some (['\r'], rest)
  | 't' :: rest => some (['\t'], rest)
  | 'v' :: rest => some (['\x0b'], rest)
  | '0' :: rest => some (['\x00'], rest)
  | 'x' :: rest => (readCode 2 rest).map fun (c, rest) => ([c], rest)
  | 'u' :: rest => (readUnit rest).map fun (c, rest) => ([c], rest)
  | '\r' :: '\n' :: rest => some ([], rest)
  | c :: rest => if isDigit c then none else if isLineEnd c then some ([], rest) else some ([c], rest)

/-- The rest of a text up to its closing quote. -/
def readQuoted (mark : Char) : Nat → List Char → List Char → Option (String × List Char)
  | 0, _, _ => none
  | _, _, [] => none
  | fuel + 1, done, c :: rest =>
    if c = mark then some (String.ofList done.reverse, rest)
    else if c = '\\' then
      (readEscape rest).bind fun (chars, rest) => readQuoted mark fuel (chars ++ done) rest
    else if isLineEnd c then none
    else readQuoted mark fuel (c :: done) rest

def startsName (c : Char) : Bool := isLetter c || c = '$' || c = '_'

def continuesName (c : Char) : Bool := startsName c || isNameMark c || c = '\u200c' || c = '\u200d'

/-- The rest of a name without quotes, in which any character may be written by its number. -/
def readName : Nat → List Char → List Char → Option (String × List Char)
  | 0, _, _ => none
  | fuel + 1, done, s =>
    match s with
    | '\\' :: 'u' :: rest => (readUnit rest).bind fun (c, rest) => readName fuel (c :: done) rest
    | c :: rest =>
      if if done.isEmpty then startsName c else continuesName c then readName fuel (c :: done) rest
      else if done.isEmpty then none
      else some (String.ofList done.reverse, s)
    | [] => if done.isEmpty then none else some (String.ofList done.reverse, [])

/-- The name of a field. -/
def readKey : List Char → Option (String × List Char)
  | '"' :: rest => readQuoted '"' (rest.length + 1) [] rest
  | '\'' :: rest => readQuoted '\'' (rest.length + 1) [] rest
  | s => readName (s.length + 1) [] s

def isHex (c : Char) : Bool := (hexValue? c).isSome

/-- Goes over an exponent, if there is one. -/
def skipExponent (s : List Char) : List Char :=
  match s with
  | c :: rest =>
    let digits := match rest with
      | '+' :: rest | '-' :: rest => rest
      | rest => rest
    if (c = 'e' || c = 'E') && digits.head?.any isDigit then digits.dropWhile isDigit else s
  | [] => []

/-- Goes over the digits before the point; a zero stands alone. -/
def skipWhole? : List Char → Option (List Char)
  | '0' :: rest => some rest
  | c :: rest => if isDigit c then some (rest.dropWhile isDigit) else none
  | [] => none

/-- Goes over a number in base ten. -/
def skipDecimal? (s : List Char) : Option (List Char) :=
  match skipWhole? s with
  | some ('.' :: rest) => some (skipExponent (rest.dropWhile isDigit))
  | some rest => some (skipExponent rest)
  | none =>
    match s with
    | '.' :: c :: rest => if isDigit c then some (skipExponent (rest.dropWhile isDigit)) else none
    | _ => none

/-- The value of a number in base ten: a whole one has 64 bits, any other one is finite. -/
def decimal? (s : List Char) : Option Json :=
  if s.any fun c => c = '.' || c = 'e' || c = 'E' then
    ((Decimal.readFloat? s).filter Float.isFinite).map .float
  else ((Decimal.readWhole? s).filter (Width.holdsSigned 64)).map .int

/-- A whole number of 32 bits in base sixteen, behind its mark. -/
def readHexadecimal (s : List Char) : Option (Json × List Char) := do
  let digits := s.takeWhile isHex
  if digits.isEmpty then none
  let (n, _) ← readHex digits.length 0 digits
  if n < Width.capacity 32 then some (.nat n, s.dropWhile isHex) else none

/-- A number. A plus sign stands only before decimal digits, and no sign before hexadecimal ones. -/
def readNumber (s : List Char) : Option (Json × List Char) :=
  let (sign, body) := match s with
    | '+' :: rest => (some '+', rest)
    | '-' :: rest => (some '-', rest)
    | rest => (none, rest)
  match body with
  | '0' :: 'x' :: rest | '0' :: 'X' :: rest => if sign.isSome then none else readHexadecimal rest
  | 'I' :: 'n' :: 'f' :: 'i' :: 'n' :: 'i' :: 't' :: 'y' :: rest =>
    if sign = some '+' then none else some (.float (Decimal.signed sign.isSome Decimal.infinity), rest)
  | 'N' :: 'a' :: 'N' :: rest => if sign = some '+' then none else some (.float (0.0 / 0.0), rest)
  | _ => do
    let rest ← skipDecimal? body
    let value ← decimal? (s.take (s.length - rest.length))
    some (value, rest)

end AsyncReports.Json5
