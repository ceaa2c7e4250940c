set_option autoImplicit false

/-!
# Characters

The classes of characters that readers tell apart, and the numbers that digits spell: letter case, white space,
decimal and hexadecimal digits. Whole numbers that are read from outside must fit a fixed number of bits, with or
without a sign.
-/

namespace AsyncReports.Text

/-! ### Letter case

Names are compared without regard to case, and all the known names are ASCII. Besides the ASCII capitals there
is one character whose lower-case form is an ASCII letter by itself, the Kelvin sign; every other character may
stay as it is. -/

def lowerChar (c : Char) : Char := if c = '\u212a' then 'k' else c.toLower

def lower (s : String) : String := String.ofList (s.toList.map lowerChar)

/-! ### White space -/

/-- The characters that the character database calls white space. -/
def isBlank (c : Char) : Bool :=
  let n := c.toNat
  n = 0x20 || 0x09 ≤ n && n ≤ 0x0D || n = 0x85 || n = 0xA0 || n = 0x1680 || 0x2000 ≤ n && n ≤ 0x200A ||
    n = 0x2028 || n = 0x2029 || n = 0x202F || n = 0x205F || n = 0x3000

def dropBlanks (s : List Char) : List Char := s.dropWhile isBlank

/-- Without the white space at both ends. -/
def trim (s : List Char) : List Char := (dropBlanks (dropBlanks s).reverse).reverse

/-! ### Digits, ASCII only -/

def isDigit (c : Char) : Bool := '0' ≤ c && c ≤ '9'

def digitValue (c : Char) : Nat := c.toNat - 48

/-- The number that decimal digits spell. -/
def ofDigits (digits : List Char) : Nat := digits.foldl (fun n c => 10 * n + digitValue c) 0

/-- The value of a hexadecimal digit of either case. -/
def hexValue? (c : Char) : Option Nat :=
  if isDigit c then some (digitValue c)
  else if 'a' ≤ c && c ≤ 'f' then some (c.toNat - 87)
  else if 'A' ≤ c && c ≤ 'F' then some (c.toNat - 55)
  else none

/-- The number of so many hexadecimal digits, after those that make up `n`. -/
def readHex : Nat → Nat → List Char → Option (Nat × List Char)
  | 0, n, s => some (n, s)
  | width + 1, n, c :: rest => (hexValue? c).bind fun digit => readHex width (16 * n + digit) rest
  | _ + 1, _, [] => none

/-- The character whose number is written with so many hexadecimal digits. -/
def readCode (width : Nat) (s : List Char) : Option (Char × List Char) :=
  (readHex width 0 s).bind fun (n, rest) => if n.isValidChar then some (Char.ofNat n, rest) else none

end AsyncReports.Text

namespace AsyncReports.Width

/-- How many numbers have so many bits. -/
def capacity (bits : Nat) : Nat := Nat.pow 2 bits

/-- A number fits so many bits, one of them for its sign. -/
def holdsSigned (bits : Nat) (n : Int) : Bool := -(capacity (bits - 1) : Int) ≤ n && n < capacity (bits - 1)

end AsyncReports.Width
