import AsyncReports.Decimal.Shortest
import AsyncReports.Text

set_option autoImplicit false

/-!
# Reading decimal numerals

A numeral is an exact decimal, and its double is the one nearest to it; of two equally near ones the one with
the even mantissa. The choice is made in whole-number arithmetic, so the digits may go on for as long as they
like.
-/

namespace AsyncReports.Decimal

open Text

/-- The bits of infinity. -/
def infinityBits : Nat := 2047 * normal

/-- Rounds `num / den` to a whole number, a half to the even side. -/
def roundToEven (num den : Nat) : Nat :=
  let q := num / den
  let r := num % den
  if den < 2 * r || 2 * r = den && q % 2 = 1 then q + 1 else q

/-- The bits of the double nearest to `num / den`. A mantissa that rounds up to the next power of two carries
into the exponent by itself. -/
def nearestBits (num den : Nat) : Nat :=
  let scaled (e : Int) : Nat × Nat := (num * Nat.pow 2 (-e).toNat, den * Nat.pow 2 e.toNat)
  let fine : Int := max (-1074) ((num.log2 : Int) - den.log2 - 53)
  let (n, d) := scaled fine
  let e := if n / d < 2 * normal then fine else fine + 1
  let (n, d) := scaled e
  min infinityBits ((e + 1074).toNat * normal + roundToEven n d)

/-- The decimal `significand · 10 ^ exponent` with a sign. -/
structure Numeral where
  negative : Bool
  significand : Nat
  exponent : Int
deriving DecidableEq

/-- The magnitude's bits. Beyond the bounds the result is known, and no large power is computed. -/
def Numeral.bits (n : Numeral) : Nat :=
  if n.significand = 0 then 0
  else
    let leading := n.exponent + (Nat.toDigits 10 n.significand).length
    if 400 < leading then infinityBits
    else if leading < -400 then 0
    else nearestBits (n.significand * Nat.pow 10 n.exponent.toNat) (Nat.pow 10 (-n.exponent).toNat)

def signed (negative : Bool) (x : Float) : Float := if negative then -x else x

def Numeral.toFloat (n : Numeral) : Float := signed n.negative (Float.ofBits n.bits.toUInt64)

def readSign : List Char → Bool × List Char
  | '-' :: rest => (true, rest)
  | '+' :: rest => (false, rest)
  | s => (false, s)

/-- A whole number, and nothing else. -/
def readWhole? (s : List Char) : Option Int :=
  let (negative, digits) := readSign s
  if digits.isEmpty || !digits.all isDigit then none
  else some (if negative then -(ofDigits digits) else ofDigits digits)

/-- The exponent that ends a numeral. -/
def readExponent? : List Char → Option Int
  | [] => some 0
  | c :: rest => if c = 'e' || c = 'E' then readWhole? rest else none

/-- Digits with or without a point, at least one of them, and perhaps an exponent. -/
def readNumeral? (s : List Char) : Option Numeral :=
  let (negative, s) := readSign s
  let whole := s.takeWhile isDigit
  let (fraction, rest) := match s.dropWhile isDigit with
    | '.' :: rest => (rest.takeWhile isDigit, rest.dropWhile isDigit)
    | rest => ([], rest)
  if whole.isEmpty && fraction.isEmpty then none
  else (readExponent? rest).map fun exponent =>
    ⟨negative, ofDigits (whole ++ fraction), exponent - fraction.length⟩

def infinity : Float := Float.ofBits infinityBits.toUInt64

/-- A number, or one of the words for infinity and for no number, in any letter case. -/
def readFloat? (s : List Char) : Option Float :=
  let (negative, word) := readSign s
  match String.ofList (word.map Char.toLower) with
  | "inf" | "infinity" => some (signed negative infinity)
  | "nan" => some (Float.ofBits (infinityBits + 1).toUInt64)
  | _ => (readNumeral? s).map Numeral.toFloat

end AsyncReports.Decimal
