import AsyncReports.Text

set_option autoImplicit false

/-!
# Patterns of field values

A filter may ask for a field whose value matches a pattern. Nothing that is logged here can match one, so all that
counts is whether a text is a pattern. Classes and word boundaries that would need tables of all characters, and
letters whose case does not matter, are refused; with ASCII alone the former are known.
-/

namespace AsyncReports.LogPattern

open Text

/-- How the pattern is read from some place on. -/
structure Flags where
  /-- Letters stand for both cases. -/
  folding : Bool := false
  /-- Characters are not only ASCII. -/
  unicode : Bool := true

/-- What a single word of a pattern stands for. -/
inductive Piece
  | char (c : Char)
  | set
  | place

/-- Whether letters and sets can be taken without tables. -/
def Flags.plain (f : Flags) : Bool := !(f.folding && f.unicode)

/-- What follows a backslash. -/
def readEscape (f : Flags) : List Char → Option (Piece × List Char)
  | [] => none
  | 'x' :: rest => (readCode 2 rest).map fun (c, rest) => (.char c, rest)
  | 'u' :: rest => (readCode 4 rest).map fun (c, rest) => (.char c, rest)
  | 'U' :: rest => (readCode 8 rest).map fun (c, rest) => (.char c, rest)
  | c :: rest =>
    if c ∈ ['d', 's', 'w'] then if f.unicode then none else some (.set, rest)
    else if c ∈ ['b', 'B', '<', '>'] then if f.unicode then none else some (.place, rest)
    else if c = 'A' || c = 'z' then some (.place, rest)
    else if c ∈ ['a', 'f', 't', 'n', 'r', 'v'] then some (.char c, rest)
    else if c.isAlphanum || 127 < c.toNat || c.toNat < 32 then none
    else some (.char c, rest)

/-- The names of the sets that stand between colons inside of brackets. -/
def namedSets : List String :=
  ["alnum", "alpha", "ascii", "blank", "cntrl", "digit", "graph", "lower", "print", "punct", "space", "upper", "word",
    "xdigit"]

/-- What follows such a name, if there is one. -/
def skipNamedSet? : List Char → Option (List Char)
  | '[' :: ':' :: rest =>
    let body := match rest with
      | '^' :: rest => rest
      | rest => rest
    match body.dropWhile (· ≠ ':') with
    | ':' :: ']' :: after => if String.ofList (body.takeWhile (· ≠ ':')) ∈ namedSets then some after else none
    | _ => none
  | _ => none

def readItem (f : Flags) : List Char → Option (Piece × List Char)
  | '\\' :: rest => readEscape f rest
  | c :: rest => some (.char c, rest)
  | [] => none

/-- One item inside of brackets: a character, a set, or a range of characters. -/
def skipItem (f : Flags) (s : List Char) : Option (List Char) :=
  match readItem f s with
  | none | some (.place, _) => none
  | some (first, rest) =>
    match rest with
    | '-' :: c :: after =>
      if c = ']' || c = '-' then some rest
      else
        match first, readItem f (c :: after) with
        | .char low, some (.char high, rest) => if low ≤ high then some rest else none
        | _, _ => none
    | _ => some rest

/-- Opens brackets: a sign that turns the set around, dashes, and a closing bracket that comes first. -/
def openSet (s : List Char) : List Char :=
  let s := match s with
    | '^' :: rest => rest
    | s => s
  match s with
  | '-' :: _ => s.dropWhile (· = '-')
  | ']' :: rest => rest
  | s => s

/-- Goes over a set with so many open brackets. Two of certain signs combine sets. -/
def skipSet (f : Flags) : Nat → Nat → List Char → Option (List Char)
  | 0, _, _ => none
  | _, 0, s => some s
  | fuel + 1, level + 1, s =>
    match skipNamedSet? s with
    | some rest => skipSet f fuel (level + 1) rest
    | none =>
      match s with
      | [] => none
      | ']' :: rest => skipSet f fuel level rest
      | '[' :: rest => skipSet f fuel (level + 2) (openSet rest)
      | '&' :: '&' :: rest | '-' :: '-' :: rest | '~' :: '~' :: rest => skipSet f fuel (level + 1) rest
      | s => (skipItem f s).bind (skipSet f fuel (level + 1))

/-- The flags behind a question mark, up to the sign that ends them. `seen` are the flags so far, `off` tells that
they are taken back. -/
def readFlags : Nat → List Char → Bool → Flags → List Char → Option (Flags × List Char)
  | 0, _, _, _, _ => none
  | _, _, _, _, [] => none
  | fuel + 1, seen, off, f, c :: rest =>
    if c = ':' || c = ')' then if seen.head? = some '-' then none else some (f, c :: rest)
    else if c ∈ seen then none
    else if c = '-' then readFlags fuel (c :: seen) true f rest
    else if c = 'i' then readFlags fuel (c :: seen) off { f with folding := !off } rest
    else if c = 'u' then readFlags fuel (c :: seen) off { f with unicode := !off } rest
    else if c ∈ ['m', 's', 'U', 'R', 'x'] then readFlags fuel (c :: seen) off f rest
    else none

/-- What follows the name of a group. -/
def skipName? (s : List Char) : Option (List Char) :=
  let name := s.takeWhile (· ≠ '>')
  let isNameChar (c : Char) : Bool := c.isAlphanum || c = '_' || c = '.' || c = '[' || c = ']' || 127 < c.toNat
  match name, s.dropWhile (· ≠ '>') with
  | c :: _, '>' :: rest => if name.all isNameChar && (c.isAlpha || c = '_' || 127 < c.toNat) then some rest else none
  | _, _ => none

mutual
/-- Goes over a part of a pattern up to its end or to a closing parenthesis. The flag tells whether something
stands before that may be repeated. -/
def skipPart : Nat → Flags → Bool → List Char → Option (List Char)
  | 0, _, _, _ => none
  | _, _, _, [] => some []
  | fuel + 1, f, before, c :: rest =>
    if c = ')' then some (c :: rest)
    else if c = '|' then skipPart fuel f false rest
    else if c = '*' || c = '+' || c = '?' then
      if before then skipPart fuel f true (if rest.head? = some '?' then rest.drop 1 else rest) else none
    else if c = '\x7b' then none
    else if c = '(' then skipGroup fuel f rest
    else if c = '[' then
      if f.plain then (skipSet f (rest.length + 1) 1 (openSet rest)).bind (skipPart fuel f true) else none
    else if c = '.' then if f.unicode then skipPart fuel f true rest else none
    else if c = '^' || c = '$' then skipPart fuel f true rest
    else
      match readItem f (c :: rest) with
      | some (.char _, rest) => if f.plain then skipPart fuel f true rest else none
      | some (_, rest) => skipPart fuel f true rest
      | none => none

/-- Goes over a group behind its parenthesis, and over what follows it. Flags alone hold to the end of the group
around them. -/
def skipGroup : Nat → Flags → List Char → Option (List Char)
  | 0, _, _ => none
  | fuel + 1, f, s =>
    match s with
    | '?' :: 'P' :: '<' :: rest | '?' :: '<' :: rest => (skipName? rest).bind (skipBody fuel f f)
    | '?' :: rest =>
      match readFlags (rest.length + 1) [] false f rest with
      | some (inner, ':' :: rest) => skipBody fuel f inner rest
      | some (inner, ')' :: after) => if rest.head? = some ')' then none else skipPart fuel inner false after
      | _ => none
    | s => skipBody fuel f f s

/-- The inside of a group, its end, and what follows it. -/
def skipBody : Nat → Flags → Flags → List Char → Option (List Char)
  | 0, _, _, _ => none
  | fuel + 1, outer, inner, s =>
    match skipPart fuel inner false s with
    | some (')' :: rest) => skipPart fuel outer true rest
    | _ => none
end

/-- Whether a text is a pattern. -/
def isPattern (s : List Char) : Bool :=
  match skipPart (3 * s.length + 3) {} false s with
  | some rest => rest.isEmpty
  | none => false

end AsyncReports.LogPattern
