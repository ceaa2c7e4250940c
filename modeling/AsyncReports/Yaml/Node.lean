import AsyncReports.Json
import AsyncReports.Decimal.Numeral

set_option autoImplicit false

/-!
# Values of the indented format

A plain text may spell a truth value, a number or nothing at all; a text in quotes is only a text. A tag of the
format's own may say what a plain text has to be. A number with a fraction keeps its spelling, since as the name
of an entry it is that spelling.
-/

namespace AsyncReports.Yaml

open Text

/-- What names an entry of a mapping. -/
inductive Name
  | text (value : String)
  | whole (value : Int)
  | number (spelling : String)
  | bool (value : Bool)
deriving DecidableEq

inductive Node
  /-- A text that is not what its tag says, or the use of a value inside of itself. -/
  | bad
  | null
  /-- A value that can name an entry. -/
  | plain (value : Name)
  | list (items : List Node)
  | table (entries : List (Name × Node))

namespace Node

def bool (b : Bool) : Node := .plain (.bool b)

def text (s : String) : Node := .plain (.text s)

def whole (n : Int) : Node := .plain (.whole n)

/-- A whole number of 64 bits, with or without a sign. -/
def whole? (s : List Char) : Option Node :=
  ((Decimal.readWhole? s).filter (Width.holdsSigned 64)).map whole

/-- A whole number of 64 bits in another base, with or without a sign. -/
def based? (base : Nat) (s : List Char) : Option Node :=
  let (negative, digits) := Decimal.readSign s
  let value? (c : Char) : Option Nat := (hexValue? c).filter (· < base)
  if digits.isEmpty then none
  else
    (digits.foldlM (fun (n : Nat) c => (value? c).map (base * n + ·)) 0).bind fun n =>
      let n : Int := if negative then -n else n
      if Width.holdsSigned 64 n then some (whole n) else none

/-- The spellings of infinity and of no number that start with a point, and one more. -/
def numberWords : List String :=
  [".inf", ".Inf", ".INF", "+.inf", "+.Inf", "+.INF", "-.inf", "-.Inf", "-.INF", ".nan", "NaN", ".NAN"]

/-- A number that is spelled with a fraction or a word. -/
def number? (s : String) : Option Node :=
  if s ∈ numberWords || (Decimal.readFloat? s.toList).isSome then some (.plain (.number s)) else none

/-- A whole number that is marked by what it starts with. -/
def marked? : List Char → Option Node
  | '0' :: 'x' :: digits => based? 16 digits
  | '0' :: 'o' :: digits => based? 8 digits
  | '+' :: digits => whole? digits
  | _ => none

/-- What a plain text without a tag spells. -/
def ofPlain (s : String) : Node :=
  match marked? s.toList with
  | some n => n
  | none =>
    match s with
    | "" | "~" | "null" => .null
    | "true" => bool true
    | "false" => bool false
    | _ => ((whole? s.toList).or (number? s)).getD (text s)

/-- What the tags of the format itself start with. -/
def ownTags : String := "tag:yaml.org,2002:"

/-- What a plain text with a tag stands for. -/
def ofTagged (handle suffix s : String) : Node :=
  if handle = ownTags then
    match suffix with
    | "bool" =>
      match s with
      | "true" => bool true
      | "false" => bool false
      | _ => .bad
    | "int" => (whole? s.toList).getD .bad
    | "float" => (number? s).getD .bad
    | "null" => if s = "~" || s = "null" then .null else .bad
    | _ => text s
  else text s

/-- The entries that names and values in turn make up. A bad name is passed over, and what follows it is taken
for the name. A name may not come twice. -/
def entries? : Option Node → List Node → List (Name × Node) → Option (List (Name × Node))
  | _, [], done => some done.reverse
  | none, .bad :: rest, done => entries? none rest done
  | none, node :: rest, done => entries? (some node) rest done
  | some (.plain name), node :: rest, done =>
    if (done.lookup name).isSome then none else entries? none rest ((name, node) :: done)
  | some _, _ :: _, _ => none

/-- The mapping of names and values in turn. -/
def table? (nodes : List Node) : Option Node := (entries? none nodes []).map .table

end Node

def Name.spelling : Name → String
  | .text s => s
  | .whole n => toString n
  | .number s => s
  | .bool b => toString b

/-- A spelling that starts with a point and a letter has no value. -/
def Name.toJson? : Name → Option Json
  | .text s => some (.text s)
  | .whole n => some (.int n)
  | .number s => (Decimal.readFloat? s.toList).map .float
  | .bool b => some (.bool b)

mutual
def Node.toJson? : Node → Option Json
  | .bad => some .null
  | .null => some .null
  | .plain value => value.toJson?
  | .list items => (itemsToJson? items).map .array
  | .table entries => (entriesToJson? entries).map fun fields => .object (Json.sortFields fields)

def itemsToJson? : List Node → Option (List Json)
  | [] => some []
  | node :: rest => do
    let item ← node.toJson?
    let items ← itemsToJson? rest
    some (item :: items)

def entriesToJson? : List (Name × Node) → Option (List (String × Json))
  | [] => some []
  | (name, node) :: rest => do
    let value ← node.toJson?
    let fields ← entriesToJson? rest
    some ((name.spelling, value) :: fields)
end

end AsyncReports.Yaml
