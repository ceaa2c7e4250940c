import AsyncReports.Text

set_option autoImplicit false

/-!
# Numbers in documents

A number's digits are gathered into a 64-bit significand; a digit that no longer fits is dropped together with
all that follow it in that part of the number, and only its place is remembered. A whole number keeps its value
where it fits 64 bits. Any other number is its significand times or over a power of ten, rounded once.
-/

namespace AsyncReports.Json

open Text

/-- A number as it is spelled. -/
structure NumberText where
  negative : Bool
  whole : List Char
  /-- The digits after the point, where there is one. -/
  fraction : Option (List Char)
  /-- The exponent, where there is one: its sign and its digits. -/
  exponent : Option (Bool × List Char)

/-- Takes digits into the significand as long as it fits 64 bits; the digits left over come second. -/
def gather (significand : Nat) : List Char → Nat × List Char
  | [] => (significand, [])
  | c :: rest =>
    let next := significand * 10 + digitValue c
    if next < Width.capacity 64 then gather next rest else (significand, c :: rest)

/-- The power of ten as a double, for exponents up to 308. -/
def powerOfTen (n : Nat) : Float := Float.ofScientific 1 false n

/-- A significand scaled by a power of ten. A value that is too large has no double; one that is too small
becomes zero. -/
def scale : Nat → Float → Int → Option Float
  | 0, x, _ => some x
  | steps + 1, x, exponent =>
    if exponent.natAbs ≤ 308 then
      if 0 ≤ exponent then
        let y := x * powerOfTen exponent.natAbs
        if y.isInf then none else some y
      else some (x / powerOfTen exponent.natAbs)
    else if x == 0 then some x
    else if 0 ≤ exponent then none
    else scale steps (x / powerOfTen 308) (exponent + 308)

def NumberText.scaled (t : NumberText) (significand : Nat) (exponent : Int) : Option Float :=
  let written : Int := match t.exponent with
    | none => 0
    | some (negative, digits) =>
      let n : Int := ofDigits digits
      if negative then -n else n
  (scale 4 (Float.ofNat significand) (exponent + written)).map fun x => if t.negative then -x else x

/-- The value of a number: a whole number or a double. -/
def NumberText.value? (t : NumberText) : Option (Int ⊕ Float) :=
  let (significand, dropped) := gather 0 t.whole
  match t.fraction with
  | none =>
    if t.exponent.isNone && dropped.isEmpty then
      if !t.negative then some (.inl significand)
      else if 1 ≤ significand && significand ≤ Width.capacity 63 then some (.inl (-significand))
      else some (.inr (-(Float.ofNat significand)))
    else (t.scaled significand dropped.length).map .inr
  | some fraction =>
    let (significand, left) := gather significand fraction
    (t.scaled significand (dropped.length - (fraction.length - left.length : Nat))).map .inr

end AsyncReports.Json
