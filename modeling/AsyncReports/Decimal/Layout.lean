import AsyncReports.Decimal.Shortest

set_option autoImplicit false

/-!
# How a double is written

The digits are always the shortest ones. A layout says where positional notation ends, whether a whole
number keeps its `.0`, and how an exponent is written. Documents, messages and structured log fields each
have one.
-/

namespace AsyncReports.Decimal

structure Layout where
  /-- The least exponent of the leading digit that is still written positionally. -/
  least : Option Int := none
  /-- The greatest such exponent. -/
  greatest : Option Int := none
  /-- Whole numbers end in `.0`. -/
  pointZero : Bool := false
  /-- A positive exponent carries a plus sign. -/
  plus : Bool := false
deriving DecidableEq

/-- Numbers in documents. -/
def Layout.document : Layout := ⟨some (-5), some 15, true, true⟩

/-- Numbers inside sentences: never an exponent, never a `.0`. -/
def Layout.sentence : Layout := {}

/-- Numbers in structured log fields and in listings of a value's fields. -/
def Layout.field : Layout := ⟨some (-4), some 15, true, false⟩

def Layout.positional (l : Layout) (exponent : Int) : Bool :=
  l.least.all (· ≤ exponent) && l.greatest.all (exponent ≤ ·)

def Layout.digits (l : Layout) (d : Digits) : List Char :=
  if l.positional d.exponent then
    if d.exponent < 0 then
      ['0', '.'] ++ List.replicate (-d.exponent - 1).toNat '0' ++ d.digits
    else
      let whole := d.exponent.toNat + 1
      if d.digits.length ≤ whole then
        d.digits ++ List.replicate (whole - d.digits.length) '0' ++ (if l.pointZero then ['.', '0'] else [])
      else d.digits.take whole ++ '.' :: d.digits.drop whole
  else
    let mark := if d.exponent < 0 then ['e', '-'] else if l.plus then ['e', '+'] else ['e']
    let tail := mark ++ Nat.toDigits 10 d.exponent.natAbs
    match d.digits with
    | [] => tail
    | [digit] => digit :: tail
    | digit :: more => digit :: '.' :: more ++ tail

def Layout.write (l : Layout) (x : Float) : String :=
  let sign := if isNegative x then ['-'] else []
  match magnitude x with
  | .notANumber => "NaN"
  | .infinite => String.ofList (sign ++ ['i', 'n', 'f'])
  | .zero => String.ofList (sign ++ '0' :: (if l.pointZero then ['.', '0'] else []))
  | .finite b => String.ofList (sign ++ l.digits b.shortest)

end AsyncReports.Decimal
