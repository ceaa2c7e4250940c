import AsyncReports.Ron.Lexeme

set_option autoImplicit false

/-!
# Reading the object format

Values are written as in a program: lists, maps, and structures with or without names, of which the names count
for nothing. A structure with named fields is a table, and any other one a list.
-/

namespace AsyncReports.Ron

/-- The extensions that a text may ask for; the flag tells whether an optional value may go without its mark. -/
def extensions : List (String × Bool) :=
  [("unwrap_newtypes", false), ("implicit_some", true), ("unwrap_variant_newtypes", false)]

/-- A comma and what separates it from the next word. -/
def readComma (s : List Char) : Option (Bool × List Char) :=
  (skip s).bind fun s =>
    match s with
    | ',' :: rest => (skip rest).map (true, ·)
    | s => some (false, s)

/-- The names of extensions. A comma may stand behind the last one. -/
def readExtensions : Nat → Bool → List Char → Option (Bool × List Char)
  | 0, _, _ => none
  | fuel + 1, implicit, s => do
    let (name, rest) ← readName s
    let extension ← extensions.lookup name
    let (comma, rest) ← readComma rest
    let more := rest.head?.any isNameChar
    if !comma && more then none
    else if more then readExtensions fuel (implicit || extension) rest
    else some (implicit || extension, rest)

/-- The lines before the value that ask for extensions. -/
def readHeader : Nat → Bool → List Char → Option (Bool × List Char)
  | 0, _, _ => none
  | fuel + 1, implicit, s => do
    let s ← skip s
    if s.head? = some '#' then
      let s ← ["#", "!", "[", "enable", "("].foldlM (fun s mark => readMark mark s) s
      let (implicit, s) ← readExtensions (s.length + 1) implicit s
      let s ← [")", "]"].foldlM (fun s mark => readMark mark s) s
      readHeader fuel implicit s
    else some (implicit, s)

/-- A value without parts that is a word of its own. -/
def readConstant (s : List Char) : Option (Json × List Char) :=
  let words : List (String × Json) :=
    [("true", .bool true), ("false", .bool false), ("None", .null), ("inf", .float Decimal.infinity),
      ("-inf", .float (Decimal.signed true Decimal.infinity)), ("NaN", .float (0.0 / 0.0))]
  words.findSome? fun (word, value) => (readWord word s).map (value, ·)

/-- A structure has named fields if its first part is a name with a colon behind it. -/
def hasFields (s : List Char) : Option Bool :=
  match readName s with
  | none => some false
  | some (_, rest) => (skip rest).bind fun rest => rest.head?.map (· = ':')

/-- The deepest nesting of values. -/
def maxDepth : Nat := 128

mutual
/-- One value. `depth` is how deep values may still be nested. -/
def readValue : Nat → Nat → Bool → List Char → Option (Json × List Char)
  | 0, _, _, _ => none
  | fuel + 1, depth, implicit, s =>
    match readConstant s, readWord "Some" s, s with
    | some found, _, _ => some found
    | _, some rest, _ => readOptional fuel depth implicit rest
    | _, _, '(' :: ')' :: rest => some (.null, rest)
    | _, _, s =>
      match readName s with
      | some (_, rest) =>
        match skip rest with
        | some ('(' :: rest) => readStructure fuel depth implicit rest
        | some rest => some (.null, rest)
        | none => none
      | none =>
        match s with
        | '(' :: rest => readStructure fuel depth implicit rest
        | '[' :: rest => (readItems fuel depth implicit ']' [] rest).map fun (items, rest) => (.array items, rest)
        | '\x7b' :: rest =>
          (readFields fuel depth implicit '\x7d' [] rest).map fun (fields, rest) =>
            (.object (Json.sortFields fields), rest)
        | '.' :: _ => readFloat s
        | c :: _ =>
          if Text.isDigit c || c = '+' || c = '-' then readNumber s
          else (readText s).map fun (s, rest) => (.text s, rest)
        | [] => none

/-- A value one step deeper. -/
def readInner : Nat → Nat → Bool → List Char → Option (Json × List Char)
  | 0, _, _, _ => none
  | _ + 1, 0, _, _ => none
  | fuel + 1, depth + 1, implicit, s => readValue fuel depth implicit s

/-- The value behind the mark of an optional one. -/
def readOptional : Nat → Nat → Bool → List Char → Option (Json × List Char)
  | 0, _, _, _ => none
  | fuel + 1, depth, implicit, s =>
    match skip s with
    | some ('(' :: rest) =>
      match (skip rest).bind (readInner fuel depth implicit) with
      | some (value, rest) =>
        match readComma rest with
        | some (_, ')' :: rest) => some (value, rest)
        | _ => none
      | none => none
    | some rest => if implicit then readInner fuel depth implicit rest else none
    | none => none

/-- The rest of a structure. -/
def readStructure : Nat → Nat → Bool → List Char → Option (Json × List Char)
  | 0, _, _, _ => none
  | fuel + 1, depth, implicit, s =>
    match (skip s).bind hasFields with
    | some true =>
      (readFields fuel depth implicit ')' [] s).map fun (fields, rest) => (.object (Json.sortFields fields), rest)
    | some false => (readItems fuel depth implicit ')' [] s).map fun (items, rest) => (.array items, rest)
    | none => none

/-- The rest of a list that has these items so far, with a comma behind them. -/
def readItems : Nat → Nat → Bool → Char → List Json → List Char → Option (List Json × List Char)
  | 0, _, _, _, _, _ => none
  | fuel + 1, depth, implicit, close, done, s =>
    match skip s with
    | none => none
    | some s =>
      if s.head? = some close then some (done.reverse, s.drop 1)
      else
        match readInner fuel depth implicit s with
        | none => none
        | some (item, rest) =>
          match readComma rest with
          | some (true, rest) => readItems fuel depth implicit close (item :: done) rest
          | some (false, rest) => if rest.head? = some close then some ((item :: done).reverse, rest.drop 1) else none
          | none => none

/-- The rest of a table that has these fields so far, with a comma behind them. The names of a structure's fields
are names, and those of a map texts. -/
def readFields : Nat → Nat → Bool → Char → List (String × Json) → List Char →
    Option (List (String × Json) × List Char)
  | 0, _, _, _, _, _ => none
  | fuel + 1, depth, implicit, close, done, s =>
    match skip s with
    | none => none
    | some s =>
      if s.head? = some close then some (done.reverse, s.drop 1)
      else
        match (if close = ')' then readName s else readText s) with
        | none => none
        | some (name, rest) =>
          match skip rest with
          | some (':' :: rest) =>
            match (skip rest).bind (readInner fuel depth implicit) with
            | none => none
            | some (value, rest) =>
              match readComma rest with
              | some (true, rest) => readFields fuel depth implicit close ((name, value) :: done) rest
              | some (false, rest) =>
                if rest.head? = some close then some (((name, value) :: done).reverse, rest.drop 1) else none
              | none => none
          | _ => none
end

/-- The fields of the table that a whole text spells. -/
def read? (text : String) : Option (List (String × Json)) := do
  let s := text.toList
  let (implicit, s) ← readHeader (s.length + 1) false s
  match ← readValue (4 * s.length + 4) maxDepth implicit s with
  | (.object fields, rest) => if (← skip rest).isEmpty then some fields else none
  | _ => none

end AsyncReports.Ron
