import AsyncReports.Json5.Lexeme

set_option autoImplicit false

/-!
# Reading the relaxed document format

It differs from plain documents in its words, and in that a comma may stand before the end of an array or an
object.
-/

namespace AsyncReports.Json5

/-- A value without parts. -/
def readPlain : List Char → Option (Json × List Char)
  | 'n' :: 'u' :: 'l' :: 'l' :: rest => some (.null, rest)
  | 't' :: 'r' :: 'u' :: 'e' :: rest => some (.bool true, rest)
  | 'f' :: 'a' :: 'l' :: 's' :: 'e' :: rest => some (.bool false, rest)
  | '"' :: rest => (readQuoted '"' (rest.length + 1) [] rest).map fun (s, rest) => (.text s, rest)
  | '\'' :: rest => (readQuoted '\'' (rest.length + 1) [] rest).map fun (s, rest) => (.text s, rest)
  | s => readNumber s

mutual
/-- One value; blanks before it are skipped. -/
def readValue : Nat → List Char → Option (Json × List Char)
  | 0, _ => none
  | fuel + 1, s =>
    match skip s with
    | '[' :: rest => (readItems fuel [] rest).map fun (items, rest) => (.array items, rest)
    | '\x7b' :: rest => (readFields fuel [] rest).map fun (fields, rest) => (.object (Json.sortFields fields), rest)
    | rest => readPlain rest

/-- The rest of an array that has these items so far, with a comma behind them. -/
def readItems : Nat → List Json → List Char → Option (List Json × List Char)
  | 0, _, _ => none
  | fuel + 1, done, s =>
    match skip s with
    | ']' :: rest => some (done.reverse, rest)
    | s =>
      match readValue fuel s with
      | none => none
      | some (item, rest) =>
        match skip rest with
        | ',' :: rest => readItems fuel (item :: done) rest
        | ']' :: rest => some ((item :: done).reverse, rest)
        | _ => none

/-- The rest of an object that has these fields so far, with a comma behind them. -/
def readFields : Nat → List (String × Json) → List Char → Option (List (String × Json) × List Char)
  | 0, _, _ => none
  | fuel + 1, done, s =>
    match skip s with
    | '\x7d' :: rest => some (done.reverse, rest)
    | s =>
      match readKey s with
      | none => none
      | some (name, rest) =>
        match skip rest with
        | ':' :: rest =>
          match readValue fuel rest with
          | none => none
          | some (value, rest) =>
            match skip rest with
            | ',' :: rest => readFields fuel ((name, value) :: done) rest
            | '\x7d' :: rest => some (((name, value) :: done).reverse, rest)
            | _ => none
        | _ => none
end

/-- The fields of the object that a whole text spells. -/
def read? (text : String) : Option (List (String × Json)) :=
  let s := text.toList
  match readValue (2 * s.length + 2) s with
  | some (.object fields, rest) => if (skip rest).isEmpty then some fields else none
  | _ => none

end AsyncReports.Json5
