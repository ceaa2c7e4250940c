import AsyncReports.Json
import AsyncReports.Text.Quoted
import AsyncReports.Decimal.Layout

set_option autoImplicit false

/-!
# Documents as text

The compact form, on one line and without blanks. A number that is not finite has no written form and is
written as null.
-/

namespace AsyncReports.Json

/-- One character inside a document's text: only quotes, backslashes and controls are marked. -/
def escaped (c : Char) : List Char :=
  if c = '"' then ['\\', '"']
  else if c = '\\' then ['\\', '\\']
  else if c = '\x08' then ['\\', 'b']
  else if c = '\x0c' then ['\\', 'f']
  else if c = '\n' then ['\\', 'n']
  else if c = '\r' then ['\\', 'r']
  else if c = '\t' then ['\\', 't']
  else if c.toNat < 32 then ['\\', 'u'] ++ Text.hex 4 c.toNat
  else [c]

def writeText (s : String) : String := String.ofList ('"' :: s.toList.flatMap escaped ++ ['"'])

def writeFloat (x : Float) : String :=
  match Decimal.magnitude x with
  | .infinite | .notANumber => "null"
  | _ => Decimal.Layout.document.write x

mutual
def write : Json → String
  | .null => "null"
  | .bool b => if b then "true" else "false"
  | .int n => toString n
  | .float x => writeFloat x
  | .text s => writeText s
  | .array items => "[" ++ String.intercalate "," (writeItems items) ++ "]"
  | .object fields => "\x7b" ++ String.intercalate "," (writeFields fields) ++ "\x7d"

def writeItems : List Json → List String
  | [] => []
  | item :: rest => write item :: writeItems rest

def writeFields : List (String × Json) → List String
  | [] => []
  | (name, value) :: rest => (writeText name ++ ":" ++ write value) :: writeFields rest
end

end AsyncReports.Json
