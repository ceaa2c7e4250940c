import AsyncReports.Json
import AsyncReports.Decimal.Numeral

set_option autoImplicit false

/-!
# Words of the object format

Blanks, comments, names, texts and numbers. Every reading function takes its word from the front of the text and
gives back the rest. A comment that is not closed spoils the whole text.
-/

namespace AsyncReports.Ron

open Text

def isBlank (c : Char) : Bool := c = ' ' || c = '\t' || c = '\n' || c = '\r'

/-- What follows the end of a comment that is so many times opened. -/
def closeComment : Nat → List Char → Option (List Char)
  | 0, s => some s
  | level + 1, '/' :: '*' :: rest => closeComment (level + 2) rest
  | level + 1, '*' :: '/' :: rest => closeComment level rest
  | level + 1, _ :: rest => closeComment (level + 1) rest
  | _ + 1, [] => none

/-- Goes over blanks and comments. -/
def skipBlanks : Nat → List Char → Option (List Char)
  | 0, s => some s
  | fuel + 1, s =>
    match s.dropWhile isBlank with
    | '/' :: '/' :: rest => skipBlanks fuel (rest.dropWhile (· ≠ '\n'))
    | '/' :: '*' :: rest => (closeComment 1 rest).bind (skipBlanks fuel)
    | '/' :: _ => none
    | s => some s

def skip (s : List Char) : Option (List Char) := skipBlanks (s.length + 1) s

/-- Goes over a mark and what separates it from the next word. -/
def readMark (mark : String) (s : List Char) : Option (List Char) :=
  if mark.toList.isPrefixOf s then skip (s.drop mark.length) else none

def startsName (c : Char) : Bool := c.isAlpha || c = '_'

def isNameChar (c : Char) : Bool := c.isAlphanum || c = '_'

/-- A name that is marked as one may also have these characters. -/
def isMarkedNameChar (c : Char) : Bool := isNameChar c || c = '.' || c = '+' || c = '-'

/-- A name. Without its mark it must not run into a character that only marked names have. -/
def readName : List Char → Option (String × List Char)
  | ['r'] | 'r' :: '"' :: _ => none
  | 'r' :: '#' :: rest =>
    let name := rest.takeWhile isMarkedNameChar
    if name.isEmpty then none else some (String.ofList name, rest.dropWhile isMarkedNameChar)
  | s =>
    let name := s.takeWhile isNameChar
    let rest := s.dropWhile isNameChar
    if !s.head?.any startsName || rest.head?.any isMarkedNameChar then none else some (String.ofList name, rest)

/-- What follows a certain word. -/
def readWord (word : String) (s : List Char) : Option (List Char) :=
  let rest := s.drop word.length
  if word.toList.isPrefixOf s && !rest.head?.any isNameChar then some rest else none

/-- Up to so many hexadecimal digits before a closing brace, behind those that make up `n`. -/
def readBraced : Nat → Nat → List Char → Option (Nat × List Char)
  | _, n, '\x7d' :: rest => some (n, rest)
  | width + 1, n, c :: rest => (hexValue? c).bind fun digit => readBraced width (16 * n + digit) rest
  | _, _, _ => none

/-- What follows a backslash. -/
def readEscape : List Char → Option (Char × List Char)
  | '\'' :: rest => some ('\'', rest)
  | '"' :: rest => some ('"', rest)
  | '\\' :: rest => some ('\\', rest)
  | 'n' :: rest => some ('\n', rest)
  | 'r' :: rest => some ('\r', rest)
  | 't' :: rest => some ('\t', rest)
  | '0' :: rest => some ('\x00', rest)
  | 'x' :: rest => readCode 2 rest
  | 'u' :: '\x7b' :: '\x7d' :: _ => none
  | 'u' :: '\x7b' :: rest =>
    (readBraced 6 0 rest).bind fun (n, rest) => if n.isValidChar then some (Char.ofNat n, rest) else none
  | _ => none

/-- The rest of a text in quotes. -/
def readQuoted : Nat → List Char → List Char → Option (String × List Char)
  | 0, _, _ => none
  | _, _, [] => none
  | fuel + 1, done, c :: rest =>
    if c = '"' then some (String.ofList done.reverse, rest)
    else if c = '\\' then (readEscape rest).bind fun (c, rest) => readQuoted fuel (c :: done) rest
    else readQuoted fuel (c :: done) rest

/-- The rest of a text that goes on to a certain end. -/
def readTo (ending : List Char) : List Char → List Char → Option (String × List Char)
  | done, [] => if ending.isEmpty then some (String.ofList done.reverse, []) else none
  | done, c :: rest =>
    if ending.isPrefixOf (c :: rest) then some (String.ofList done.reverse, (c :: rest).drop ending.length)
    else readTo ending (c :: done) rest

/-- A text without escapes, behind its mark. It ends with a quote and as many hashes as there are before it. -/
def readRaw (s : List Char) : Option (String × List Char) :=
  let hashes := s.takeWhile (· = '#')
  match s.dropWhile (· = '#') with
  | '"' :: rest => readTo ('"' :: hashes) [] rest
  | _ => none

/-- A single character between its quotes. -/
def readSingle : List Char → Option (String × List Char)
  | '\\' :: rest =>
    match readEscape rest with
    | some (c, '\'' :: rest) => some (String.singleton c, rest)
    | _ => none
  | c :: '\'' :: rest => if c = '\'' then none else some (String.singleton c, rest)
  | _ => none

/-- A text, or a single character, which is a text as well. -/
def readText : List Char → Option (String × List Char)
  | '"' :: rest => readQuoted (rest.length + 1) [] rest
  | 'r' :: rest => readRaw rest
  | '\'' :: rest => readSingle rest
  | _ => none

/-! ## Numbers -/

def isWholeChar (c : Char) : Bool := (hexValue? c).isSome || c = '_'

def isFloatChar (c : Char) : Bool := isDigit c || c ∈ ['e', 'E', '.', '+', '-', '_']

/-- The number that digits with underscores between them spell. -/
def ofBase? (base : Nat) (s : List Char) : Option Nat :=
  (s.filter (· ≠ '_')).foldlM (fun n c => ((hexValue? c).filter (· < base)).map (base * n + ·)) 0

/-- A whole number without a sign. -/
def readUnsigned (s : List Char) : Option (Nat × List Char) :=
  let (base, s) : Nat × List Char := match s with
    | '0' :: 'x' :: rest => (16, rest)
    | '0' :: 'b' :: rest => (2, rest)
    | '0' :: 'o' :: rest => (8, rest)
    | s => (10, s)
  let digits := s.takeWhile isWholeChar
  if digits.isEmpty || digits.head? = some '_' then none
  else (ofBase? base digits).map (·, s.dropWhile isWholeChar)

/-- A whole number: of 64 bits with a sign, or of 64 bits without one. In the second case one beyond 63 bits is
held as a double. -/
def readWhole (s : List Char) : Option (Json × List Char) :=
  match s with
  | '-' :: rest =>
    (readUnsigned rest).bind fun (n, rest) =>
      if n ≤ Width.capacity 63 then some (.int (-(n : Int)), rest) else none
  | '+' :: rest =>
    (readUnsigned rest).bind fun (n, rest) => if n < Width.capacity 63 then some (.nat n, rest) else none
  | s =>
    (readUnsigned s).bind fun (n, rest) =>
      if n < Width.capacity 63 then some (.nat n, rest)
      else if n < Width.capacity 64 then some (.float (Float.ofNat n), rest)
      else none

/-- A number with a fraction or an exponent, or a word for infinity or for no number. -/
def readFloat (s : List Char) : Option (Json × List Char) :=
  let word? := ["inf", "+inf", "-inf", "NaN", "+NaN", "-NaN"].findSome? fun word =>
    (readWord word s).map fun rest => (word.toList, rest)
  let (digits, rest) := word?.getD (s.takeWhile isFloatChar, s.dropWhile isFloatChar)
  (Decimal.readFloat? digits).map fun x => (.float x, rest)

/-- A number. One that looks whole but cannot be taken as such is tried with a fraction. -/
def readNumber (s : List Char) : Option (Json × List Char) :=
  let body := match s with
    | '+' :: rest | '-' :: rest => rest
    | s => s
  if (body.takeWhile isWholeChar).length < (body.takeWhile isFloatChar).length then readFloat s
  else (readWhole s).or (readFloat s)

end AsyncReports.Ron
