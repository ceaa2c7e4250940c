import AsyncReports.Json.Printer
import AsyncReports.Date.Text
import AsyncReports.Text

set_option autoImplicit false

/-!
# Decoding documents

Every type that travels as a document has a decoder. A decoder reports the first thing that is wrong: the fields
of a record are looked at in the order in which they stand, then the absent ones in the order in which the
record declares them. A record is an object, or a list of its fields in declared order; unknown fields do not
matter.
-/

namespace AsyncReports

/-- What a decoder met instead of what it wanted. -/
inductive Found
  | null
  | bool (value : Bool)
  | int (value : Int)
  | float (value : Float)
  | text (value : String)
  | array
  | object

def Found.message : Found → String
  | .null => "null"
  | .bool b => "boolean `" ++ (if b then "true" else "false") ++ "`"
  | .int n => "integer `" ++ toString n ++ "`"
  | .float x => "floating point `" ++ Json.writeFloat x ++ "`"
  | .text s => "string " ++ Text.quoted s
  | .array => "sequence"
  | .object => "map"

def Json.found : Json → Found
  | .null => .null
  | .bool b => .bool b
  | .int n => .int n
  | .float x => .float x
  | .text s => .text s
  | .array _ => .array
  | .object _ => .object

inductive DecodeError
  | wrongType (found : Found) (wanted : String)
  | wrongValue (found : Found) (wanted : String)
  | wrongLength (length : Nat) (wanted : String)
  | missingField (name : String)
  | duplicateField (name : String)
  | unknownVariant (found : String) (known : List String)
  | badDate (cause : DateError)

def DecodeError.message : DecodeError → String
  | .wrongType found wanted => "invalid type: " ++ found.message ++ ", expected " ++ wanted
  | .wrongValue found wanted => "invalid value: " ++ found.message ++ ", expected " ++ wanted
  | .wrongLength length wanted => "invalid length " ++ toString length ++ ", expected " ++ wanted
  | .missingField name => "missing field `" ++ name ++ "`"
  | .duplicateField name => "duplicate field `" ++ name ++ "`"
  | .unknownVariant found known =>
    "unknown variant `" ++ found ++ "`, expected one of " ++
      String.intercalate ", " (known.map fun name => "`" ++ name ++ "`")
  | .badDate cause => cause.message

abbrev Decoder (α : Type) := Json → Except DecodeError α

namespace Decoder

def text : Decoder String
  | .text s => .ok s
  | j => .error (.wrongType j.found "a string")

def bool : Decoder Bool
  | .bool b => .ok b
  | j => .error (.wrongType j.found "a boolean")

def items {α : Type} (item : Decoder α) : List Json → Except DecodeError (List α)
  | [] => .ok []
  | j :: rest => do
    let a ← item j
    let more ← items item rest
    pure (a :: more)

def list {α : Type} (item : Decoder α) : Decoder (List α)
  | .array js => items item js
  | j => .error (.wrongType j.found "a sequence")

/-- Null stands for an absent value. -/
def optional {α : Type} (value : Decoder α) : Decoder (Option α)
  | .null => .ok none
  | j => (value j).map some

/-- Any number, as a double. -/
def float : Decoder Float
  | .int n => .ok (Float.ofInt n)
  | .float x => .ok x
  | j => .error (.wrongType j.found "f64")

/-- A whole number from zero to below `limit`, by the name of its width. -/
def unsigned (limit : Nat) (width : String) : Decoder Nat
  | .int n => if 0 ≤ n ∧ n < limit then .ok n.toNat else .error (.wrongValue (.int n) width)
  | j => .error (.wrongType j.found width)

/-- Thirty-two bits. -/
def count : Decoder Nat := unsigned (Width.capacity 32) "u32"

/-- Sixty-four bits. -/
def duration : Decoder Nat := unsigned (Width.capacity 64) "u64"

/-- As many bits as an address. -/
def size : Decoder Nat := unsigned (Width.capacity 64) "usize"

def date : Decoder Date
  | .text s => (Date.ofText s).mapError .badDate
  | j => .error (.wrongType j.found "a formatted date string")

/-- A document that is kept as it is. -/
def any : Decoder Json := .ok

def object : Decoder (List (String × Json))
  | .object fields => .ok fields
  | j => .error (.wrongType j.found "a map")

/-- Nothing at all. -/
def nothing : Decoder Unit
  | .null => .ok ()
  | j => .error (.wrongType j.found "unit")

/-- Nothing at all, for which an empty object may stand too. -/
def nothingOrEmpty : Decoder Unit
  | .object [] => .ok ()
  | j => nothing j

/-- One of several names. A name may also be the only field of an object, with `beside` for its value. -/
def choiceWith {α : Type} (beside : Decoder Unit) (known : List (String × α)) : Decoder α
  | .text s => pick s
  | .object [(s, value)] => do
    let a ← pick s
    beside value
    pure a
  | .object _ => .error (.wrongValue .object "map with a single key")
  | j => .error (.wrongType j.found "string or map")
where
  pick (s : String) : Except DecodeError α :=
    match known.lookup s with
    | some a => .ok a
    | none => .error (.unknownVariant s (known.map Prod.fst))

/-- One of several names, and nothing but the name. -/
def name {α : Type} (known : List (String × α)) : Decoder α
  | .text s => choiceWith.pick known s
  | j => .error (.wrongType j.found "variant identifier")

/-- One of several names, with null beside it if it is the only field of an object. -/
def choice {α : Type} (known : List (String × α)) : Decoder α := choiceWith nothing known

end Decoder

/-- A record's name and its fields in declared order, each with a check of its value. -/
structure Shape where
  name : String
  fields : List (String × (Json → Except DecodeError Unit))

/-- A check that only asks whether a decoder takes the value. -/
def Decoder.check {α : Type} (decoder : Decoder α) (j : Json) : Except DecodeError Unit :=
  (decoder j).map fun _ => ()

namespace Shape

/-- How a record was spelled: with its field names, or as a list of so many values. -/
inductive Spelling
  | named
  | listed (length : Nat)

/-- Checks the known fields in the order in which they stand. -/
def checkFields (s : Shape) : List String → List (String × Json) → Except DecodeError Unit
  | _, [] => .ok ()
  | seen, (name, value) :: rest =>
    match s.fields.lookup name with
    | none => checkFields s seen rest
    | some check =>
      if name ∈ seen then .error (.duplicateField name)
      else do
        check value
        checkFields s (name :: seen) rest

/-- The record's fields by name, their values checked. -/
def entries (s : Shape) : Json → Except DecodeError (List (String × Json) × Spelling)
  | .object fields => do
    s.checkFields [] fields
    pure (fields, .named)
  | .array values => do
    let fields := (s.fields.map Prod.fst).zip values
    s.checkFields [] fields
    pure (fields, .listed values.length)
  | j => .error (.wrongType j.found ("struct " ++ s.name))

/-- A field that must be there. -/
def required {α : Type} (s : Shape) (spelling : Spelling) (fields : List (String × Json))
    (name : String) (decoder : Decoder α) : Except DecodeError α :=
  match fields.lookup name with
  | some j => decoder j
  | none =>
    match spelling with
    | .named => .error (.missingField name)
    | .listed length =>
      .error (.wrongLength length ("struct " ++ s.name ++ " with " ++ toString s.fields.length ++ " elements"))

/-- A field that has a value when it is absent. -/
def defaulted {α : Type} (fields : List (String × Json)) (name : String) (decoder : Decoder α)
    (value : α) : Except DecodeError α :=
  match fields.lookup name with
  | some j => decoder j
  | none => .ok value

/-- A list must not go on after the last field. -/
def finish (s : Shape) : Spelling → Except DecodeError Unit
  | .named => .ok ()
  | .listed length =>
    if s.fields.length < length then .error (.wrongLength length "fewer elements in array") else .ok ()

end Shape

end AsyncReports
