import AsyncReports.Json
import AsyncReports.Json.Number

set_option autoImplicit false

/-!
# Reading documents

A reader on the list of characters. Each step takes at least one character, so the length of the text bounds
the number of steps. Anything but one value with blanks around it is refused, and so is a value that is nested
too deep, even where a later field of the same name would hide it.
-/

namespace AsyncReports.Json

open Text

def isBlank (c : Char) : Bool := c = ' ' || c = '\t' || c = '\n' || c = '\r'

def skipBlanks (s : List Char) : List Char := s.dropWhile isBlank

/-- A mandatory run of digits. -/
def digits? (s : List Char) : Option (List Char × List Char) :=
  let digits := s.takeWhile isDigit
  if digits.isEmpty then none else some (digits, s.dropWhile isDigit)

def readFraction : List Char → Option (Option (List Char) × List Char)
  | '.' :: rest => (digits? rest).map fun (digits, rest) => (some digits, rest)
  | s => some (none, s)

def readExponent : List Char → Option (Option (Bool × List Char) × List Char)
  | c :: rest =>
    if c = 'e' || c = 'E' then
      match rest with
      | '+' :: rest => (digits? rest).map fun (digits, rest) => (some (false, digits), rest)
      | '-' :: rest => (digits? rest).map fun (digits, rest) => (some (true, digits), rest)
      | rest => (digits? rest).map fun (digits, rest) => (some (false, digits), rest)
    else some (none, c :: rest)
  | [] => some (none, [])

def readNumber (s : List Char) : Option (Json × List Char) := do
  let (negative, s) := match s with
    | '-' :: rest => (true, rest)
    | s => (false, s)
  let (whole, s) ← digits? s
  if whole.length ≠ 1 && whole.head? = some '0' then none
  let (fraction, s) ← readFraction s
  let (exponent, s) ← readExponent s
  match ← (NumberText.mk negative whole fraction exponent).value? with
  | .inl n => some (.int n, s)
  | .inr x => some (.float x, s)

/-- The character behind `\u`; a pair of surrogates is one character, and a single one is none. -/
def readEscapedUnit (s : List Char) : Option (Char × List Char) := do
  let (first, rest) ← readHex 4 0 s
  if 0xDC00 ≤ first && first ≤ 0xDFFF then none
  if 0xD800 ≤ first && first ≤ 0xDBFF then
    match rest with
    | '\\' :: 'u' :: rest =>
      let (second, rest) ← readHex 4 0 rest
      if second < 0xDC00 || 0xDFFF < second then none
      some (Char.ofNat (0x10000 + (first - 0xD800) * 0x400 + (second - 0xDC00)), rest)
    | _ => none
  else some (Char.ofNat first, rest)

/-- The rest of a text up to its closing quote. -/
def readText : Nat → List Char → List Char → Option (String × List Char)
  | 0, _, _ => none
  | _, _, [] => none
  | fuel + 1, done, c :: rest =>
    if c = '"' then some (String.ofList done.reverse, rest)
    else if c = '\\' then
      match rest with
      | '"' :: rest => readText fuel ('"' :: done) rest
      | '\\' :: rest => readText fuel ('\\' :: done) rest
      | '/' :: rest => readText fuel ('/' :: done) rest
      | 'b' :: rest => readText fuel ('\x08' :: done) rest
      | 'f' :: rest => readText fuel ('\x0c' :: done) rest
      | 'n' :: rest => readText fuel ('\n' :: done) rest
      | 'r' :: rest => readText fuel ('\r' :: done) rest
      | 't' :: rest => readText fuel ('\t' :: done) rest
      | 'u' :: rest =>
        match readEscapedUnit rest with
        | some (c, rest) => readText fuel (c :: done) rest
        | none => none
      | _ => none
    else if c.toNat < 32 then none
    else readText fuel (c :: done) rest

/-- A value without parts. -/
def readPlain : List Char → Option (Json × List Char)
  | 'n' :: 'u' :: 'l' :: 'l' :: rest => some (.null, rest)
  | 't' :: 'r' :: 'u' :: 'e' :: rest => some (.bool true, rest)
  | 'f' :: 'a' :: 'l' :: 's' :: 'e' :: rest => some (.bool false, rest)
  | '"' :: rest => (readText (rest.length + 1) [] rest).map fun (s, rest) => (.text s, rest)
  | s => readNumber s

/-- The deepest nesting of arrays and objects. -/
def maxDepth : Nat := 127

mutual
/-- One value; blanks before it are skipped. `depth` is how deep arrays and objects may still be nested. -/
def readValue : Nat → Nat → List Char → Option (Json × List Char)
  | 0, _, _ => none
  | fuel + 1, depth, s =>
    match skipBlanks s, depth with
    | '[' :: _, 0 | '\x7b' :: _, 0 => none
    | '[' :: rest, depth + 1 =>
      match skipBlanks rest with
      | ']' :: rest => some (.array [], rest)
      | rest => (readItems fuel depth [] rest).map fun (items, rest) => (.array items, rest)
    | '\x7b' :: rest, depth + 1 =>
      match skipBlanks rest with
      | '\x7d' :: rest => some (.object [], rest)
      | rest => (readFields fuel depth [] rest).map fun (fields, rest) => (.object (sortFields fields), rest)
    | rest, _ => readPlain rest

/-- The items of an array that has at least one more. -/
def readItems : Nat → Nat → List Json → List Char → Option (List Json × List Char)
  | 0, _, _, _ => none
  | fuel + 1, depth, done, s =>
    match readValue fuel depth s with
    | none => none
    | some (item, rest) =>
      match skipBlanks rest with
      | ',' :: rest => readItems fuel depth (item :: done) rest
      | ']' :: rest => some ((item :: done).reverse, rest)
      | _ => none

/-- The fields of an object that has at least one more. -/
def readFields : Nat → Nat → List (String × Json) → List Char → Option (List (String × Json) × List Char)
  | 0, _, _, _ => none
  | fuel + 1, depth, done, s =>
    match skipBlanks s with
    | '"' :: rest =>
      match readText (rest.length + 1) [] rest with
      | none => none
      | some (name, rest) =>
        match skipBlanks rest with
        | ':' :: rest =>
          match readValue fuel depth rest with
          | none => none
          | some (value, rest) =>
            match skipBlanks rest with
            | ',' :: rest => readFields fuel depth ((name, value) :: done) rest
            | '\x7d' :: rest => some (((name, value) :: done).reverse, rest)
            | _ => none
        | _ => none
    | _ => none
end

/-- The value that a whole text spells. -/
def read? (text : String) : Option Json :=
  let s := text.toList
  match readValue (s.length + 1) maxDepth s with
  | some (value, rest) => if (skipBlanks rest).isEmpty then some value else none
  | none => none

end AsyncReports.Json
