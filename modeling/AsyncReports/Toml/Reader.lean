import AsyncReports.Toml.Table
import AsyncReports.Toml.Lexeme

set_option autoImplicit false

/-!
# Reading the table format

A text is a list of lines, each with at most one statement. Values may nest arrays and inline tables, up to a
fixed depth.
-/

namespace AsyncReports.Toml

/-- A value without parts. -/
def readPlain? (s : List Char) : Option (Json × List Char) :=
  match s with
  | 't' :: 'r' :: 'u' :: 'e' :: rest => some (.bool true, rest)
  | 'f' :: 'a' :: 'l' :: 's' :: 'e' :: rest => some (.bool false, rest)
  | '"' :: _ | '\'' :: _ => (readText? s).map fun (t, rest) => (.text t, rest)
  | s =>
    match readMoment? s with
    | some (t, rest) => some (.text t, rest)
    | none =>
      match readFloat? s with
      | some (x, rest) => some (.float x, rest)
      | none => (readInteger? s).map fun (n, rest) => (.int n, rest)

/-- The deepest nesting of arrays and inline tables. -/
def maxDepth : Nat := 79

mutual
def readValue : Nat → Nat → List Char → Option (Json × List Char)
  | 0, _, _ => none
  | fuel + 1, depth, s =>
    match s, depth with
    | '[' :: _, 0 | '\x7b' :: _, 0 => none
    | '[' :: rest, depth + 1 => (readItems fuel depth [] rest).map fun (items, rest) => (.array items, rest)
    | '\x7b' :: rest, depth + 1 =>
      match skipBlanks rest with
      | '\x7d' :: rest => some (.object [], rest)
      | rest => (readFields fuel depth [] rest).map fun (fields, rest) => (.object (entriesToJson fields), rest)
    | s, _ => readPlain? s

/-- The rest of an array; a comma may stand before its end. -/
def readItems : Nat → Nat → List Json → List Char → Option (List Json × List Char)
  | 0, _, _, _ => none
  | fuel + 1, depth, done, s =>
    match skipLines s.length s with
    | ']' :: rest => some (done.reverse, rest)
    | s =>
      match readValue fuel depth s with
      | none => none
      | some (item, rest) =>
        match skipLines rest.length rest with
        | ',' :: rest => readItems fuel depth (item :: done) rest
        | ']' :: rest => some ((item :: done).reverse, rest)
        | _ => none

/-- The rest of an inline table that has at least one more field. -/
def readFields : Nat → Nat → Entries → List Char → Option (Entries × List Char)
  | 0, _, _, _ => none
  | fuel + 1, depth, done, s =>
    match readKey maxKeyParts s with
    | some (key, '=' :: rest) =>
      match readValue fuel depth (skipBlanks rest) with
      | none => none
      | some (value, rest) =>
        match put value true key done with
        | none => none
        | some done =>
          match skipBlanks rest with
          | ',' :: rest => readFields fuel depth done rest
          | '\x7d' :: rest => some (done, rest)
          | _ => none
    | _ => none
end

/-- The path and the name behind the opening brackets of a header. -/
def readHeader (s : List Char) : Option ((List String × String) × List Char) :=
  (readKey maxKeyParts s).bind fun (key, rest) =>
    key.getLast?.map fun name => ((key.dropLast, name), rest)

/-- The statement that a line starts with. -/
def readStatement : List Char → Option (Statement × List Char)
  | '[' :: '[' :: rest =>
    match readHeader rest with
    | some ((path, name), ']' :: ']' :: rest) => some (.element path name, rest)
    | _ => none
  | '[' :: rest =>
    match readHeader rest with
    | some ((path, name), ']' :: rest) => some (.table path name, rest)
    | _ => none
  | s =>
    match readKey maxKeyParts s with
    | some (key, '=' :: rest) =>
      (readValue (rest.length + 1) maxDepth (skipBlanks rest)).map fun (value, rest) => (.value key value, rest)
    | _ => none

def readStatements : Nat → List Statement → List Char → Option (List Statement)
  | 0, _, _ => none
  | fuel + 1, done, s =>
    match skipLines s.length s with
    | [] => some done.reverse
    | s =>
      match readStatement s with
      | none => none
      | some (statement, rest) =>
        (readLineEnd? rest).bind fun rest => readStatements fuel (statement :: done) rest

/-- The tables that a whole text spells. A mark of its byte order before it does not count. -/
def read? (text : String) : Option (List (String × Json)) :=
  let s := match text.toList with
    | '\ufeff' :: rest => rest
    | s => s
  (readStatements (s.length + 1) [] s).bind tables?

end AsyncReports.Toml
