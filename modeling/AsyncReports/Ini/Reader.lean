import AsyncReports.Json
import AsyncReports.Text

set_option autoImplicit false

/-!
# Reading the section format

A text is a list of headers and entries. An entry belongs to the section of the last header before it, or to none,
and all values are texts. A key goes on to the mark behind it, over as many lines as that takes; a comment must
start in the first column.
-/

namespace AsyncReports.Ini

open Text

inductive Statement
  | header (name : String)
  | entry (key value : String)

/-- The character whose number is written with four characters. -/
def readNumbered (s : List Char) : Option (Char × List Char) :=
  match s with
  | '+' :: rest => readCode 3 rest
  | _ => readCode 4 s

/-- What stands for the characters behind a backslash. A line break is taken away, and a backslash before any
other character stands for itself. -/
def readEscape : List Char → Option (List Char × List Char)
  | [] => none
  | '0' :: rest => some (['\x00'], rest)
  | 'a' :: rest => some (['\x07'], rest)
  | 'b' :: rest => some (['\x08'], rest)
  | 't' :: rest => some (['\t'], rest)
  | 'r' :: rest => some (['\r'], rest)
  | 'n' :: rest => some (['\n'], rest)
  | '\n' :: rest => some ([], rest)
  | 'x' :: rest => (readNumbered rest).map fun (c, rest) => ([c], rest)
  | c :: rest => some (['\\', c], rest)

/-- The characters before one of those that end a part; `last` tells whether the end of the text ends it too. -/
def readUntil (ends : Char → Bool) (last : Bool) : Nat → List Char → List Char → Option (List Char × List Char)
  | 0, _, _ => none
  | _ + 1, done, [] => if last then some (done.reverse, []) else none
  | fuel + 1, done, c :: rest =>
    if ends c then some (done.reverse, c :: rest)
    else if c = '\\' then
      (readEscape rest).bind fun (chars, rest) => readUntil ends last fuel (chars.reverse ++ done) rest
    else readUntil ends last fuel (c :: done) rest

def isLineEnd (c : Char) : Bool := c = '\n' || c = '\r'

def trimEnd (s : List Char) : List Char := (dropBlanks s.reverse).reverse

/-- The rest of a value: parts in quotes, and then what is left of the line. -/
def readParts : Nat → List Char → List Char → Option (List Char × List Char)
  | 0, _, _ => none
  | fuel + 1, done, s =>
    match s with
    | [] => some (done, [])
    | c :: rest =>
      if c = '"' || c = '\'' then
        (readUntil (· = c) false (rest.length + 1) [] rest).bind fun (part, rest) =>
          readParts fuel (done ++ part) (rest.drop 1)
      else (readUntil isLineEnd true (s.length + 1) [] s).map fun (part, rest) => (done ++ trimEnd part, rest)

/-- A value, behind the mark before it. It is trimmed at both ends unless it starts with a quote. -/
def readValue (s : List Char) : Option (String × List Char) :=
  let s := s.dropWhile fun c => isBlank c && !isLineEnd c
  let found := match s with
    | '"' :: _ | '\'' :: _ => readParts (s.length + 1) [] s
    | _ => (readUntil isLineEnd true (s.length + 1) [] s).map fun (part, rest) => (trim part, rest)
  found.map fun (value, rest) => (String.ofList value, rest)

def readHeader (s : List Char) : Option (Statement × List Char) :=
  (readUntil (· = ']') false (s.length + 1) [] s).map fun (name, rest) =>
    (.header (String.ofList (trim name)), rest.drop 1)

def readEntry (s : List Char) : Option (Statement × List Char) := do
  let (key, rest) ← readUntil (fun c => c = '=' || c = ':') false (s.length + 1) [] s
  let key := trim key
  if key.isEmpty then none
  let (value, rest) ← readValue (rest.drop 1)
  some (.entry (String.ofList key) value, rest)

/-- Goes over blanks and line breaks. The flag tells whether the place is the first column. -/
def skipBlanks : Bool → List Char → Bool × List Char
  | first, [] => (first, [])
  | first, c :: rest => if isBlank c then skipBlanks (c = '\n') rest else (first, c :: rest)

/-- Goes over a comment and the line break behind it. -/
def skipComment (s : List Char) : List Char := (s.dropWhile (· ≠ '\n')).drop 1

def readStatements : Nat → Bool → List Statement → List Char → Option (List Statement)
  | 0, _, _, _ => none
  | fuel + 1, first, done, s =>
    match skipBlanks first s with
    | (_, []) => some done.reverse
    | (first, c :: rest) =>
      if c = ';' || c = '#' then
        if first then readStatements fuel true done (skipComment rest) else none
      else
        (if c = '[' then readHeader rest else readEntry (c :: rest)).bind fun (statement, rest) =>
          readStatements fuel false (statement :: done) rest

/-- The entries before the first header. -/
def entries : List Statement → List (String × Json)
  | .entry key value :: rest => (key, .text value) :: entries rest
  | _ => []

/-- The sections in their order. -/
def sections : List Statement → List (String × Json)
  | [] => []
  | .header name :: rest => (name, .object (Json.sortFields (entries rest))) :: sections rest
  | .entry _ _ :: rest => sections rest

/-- The sections and the entries of none that a whole text spells. Of several with one name the last one counts
as a whole. -/
def read? (text : String) : Option (List (String × Json)) :=
  let s := text.toList
  (readStatements (s.length + 1) true [] s).map fun statements =>
    Json.sortFields (entries statements ++ sections statements)

end AsyncReports.Ini
