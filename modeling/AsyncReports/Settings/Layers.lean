import AsyncReports.Json
import AsyncReports.Text
import AsyncReports.Decimal.Numeral

set_option autoImplicit false

/-!
# Layers of settings

Settings come from several sources, each of which sets some of them. The sources are laid over each other, a
later one over the earlier ones: tables are merged entry by entry, and anything else replaces what lies below
it. Names of entries are put into lower case on the way, and at the top level of a source a name may be a path.
-/

namespace AsyncReports

/-- What one source sets, at its top level. -/
abbrev Layer := List (String × Json)

namespace Layer

/-- The entries of a table; anything else gives way to an empty one. -/
def entries : Option Json → List (String × Json)
  | some (.object fields) => fields
  | _ => []

mutual
/-- A value laid over another one. An empty table changes nothing. -/
def overlay : Json → Option Json → Json
  | .object [], lower => lower.getD (.object [])
  | .object (field :: rest), lower => .object (overlayFields (field :: rest) (entries lower))
  | value, _ => value

def overlayFields : List (String × Json) → List (String × Json) → List (String × Json)
  | [], lower => lower
  | (name, value) :: rest, lower =>
    overlayFields rest (Json.insertField (Text.lower name) (overlay value (lower.lookup (Text.lower name))) lower)
end

/-- A step from a value to a part of it. -/
inductive Step
  | entry (name : String)
  | item (index : Int)
deriving DecidableEq

def isNameChar (c : Char) : Bool := c.isAlphanum || c = '_' || c = '-' || c = ' '

/-- The index inside brackets, with spaces and tabs around it. -/
def index? (s : List Char) : Option Int :=
  let isSpace (c : Char) : Bool := c = ' ' || c = '\t'
  let digits := ((s.dropWhile isSpace).reverse.dropWhile isSpace).reverse
  if digits.head? = some '+' then none else (Decimal.readWhole? digits).filter (Width.holdsSigned 64)

/-- The steps after the first name of a path. Every step takes at least one character. -/
def readSteps : Nat → List Char → Option (List Step)
  | _, [] => some []
  | 0, _ => none
  | fuel + 1, '.' :: rest =>
    let name := rest.takeWhile isNameChar
    if name.isEmpty then none
    else (readSteps fuel (rest.dropWhile isNameChar)).map (.entry (String.ofList name) :: ·)
  | fuel + 1, '[' :: rest =>
    match rest.dropWhile (· ≠ ']') with
    | ']' :: after =>
      (index? (rest.takeWhile (· ≠ ']'))).bind fun index => (readSteps fuel after).map (.item index :: ·)
    | _ => none
  | _ + 1, _ => none

/-- The path that a name spells. One that spells none names an entry as it is. -/
def steps (name : String) : List Step :=
  let s := name.toList
  let first := s.takeWhile isNameChar
  let rest := s.dropWhile isNameChar
  match readSteps rest.length rest with
  | some more => if first.isEmpty then [.entry name] else .entry (String.ofList first) :: more
  | none => [.entry name]

def items : Option Json → List Json
  | some (.array items) => items
  | _ => []

/-- An index counts from the end when it is negative. -/
def place (index : Int) (length : Nat) : Nat := if 0 ≤ index then index.toNat else length - index.natAbs

/-- Lays a value over the part of another one at the end of a path. What is not there is made, and what is in
the way gives way. An item is replaced, never merged. -/
def overlayAt : List Step → Json → Option Json → Json
  | [], value, lower => overlay value lower
  | .entry name :: rest, value, lower =>
    let fields := entries lower
    .object (Json.insertField (Text.lower name) (overlayAt rest value (fields.lookup (Text.lower name))) fields)
  | .item index :: rest, value, lower =>
    let held := items lower
    let spot := place index held.length
    let held := held ++ List.replicate (spot + 1 - held.length) Json.null
    .array (held.set spot (if rest.isEmpty then value else overlayAt rest value held[spot]?))

/-- Lays a source over what the sources before it have set. -/
def onto (layer : Layer) (tree : Json) : Json :=
  layer.foldl (fun tree field => overlayAt (steps field.1) field.2 (some tree)) tree

/-- All sources, the first one at the bottom. -/
def merge (layers : List Layer) : Json := layers.foldl (fun tree layer => layer.onto tree) (.object [])

end Layer

end AsyncReports
