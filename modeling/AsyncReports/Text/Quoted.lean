import AsyncReports.Text.Classes

set_option autoImplicit false

/-!
# Quoted text

The form in which messages show a text so that a reader sees every character: between double quotes, with
quotes and backslashes marked, and with everything invisible written by its code point. Lists and sets of
texts are shown in brackets.
-/

namespace AsyncReports.Text

def hexDigit (n : Nat) : Char := if n < 10 then Char.ofNat (48 + n) else Char.ofNat (87 + n)

/-- The hexadecimal digits of a number, at least `width` of them. -/
def hex (width n : Nat) : List Char :=
  let digits := (Nat.toDigits 16 n)
  List.replicate (width - digits.length) '0' ++ digits

/-- One character inside quotes. -/
def quotedChar (c : Char) : List Char :=
  if c = '"' then ['\\', '"']
  else if c = '\\' then ['\\', '\\']
  else if c = '\n' then ['\\', 'n']
  else if c = '\t' then ['\\', 't']
  else if c = '\r' then ['\\', 'r']
  else if c = '\x00' then ['\\', '0']
  else if c.toNat < 32 || 126 < c.toNat && (extendsGrapheme c || isUnprintable c) then
    ['\\', 'u', '\x7b'] ++ hex 1 c.toNat ++ ['\x7d']
  else [c]

def quoted (s : String) : String :=
  String.ofList ('"' :: s.toList.flatMap quotedChar ++ ['"'])

/-- A list of texts, in brackets. -/
def quotedList (items : List String) : String :=
  "[" ++ String.intercalate ", " (items.map quoted) ++ "]"

/-- A set of texts, in braces. -/
def quotedSet (items : List String) : String :=
  "\x7b" ++ String.intercalate ", " (items.map quoted) ++ "\x7d"

end AsyncReports.Text
