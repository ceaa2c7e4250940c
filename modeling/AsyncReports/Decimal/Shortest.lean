set_option autoImplicit false

/-!
# Shortest decimal digits of a double

A finite double `m · 2 ^ q` stands for every real that rounds to it. Among the decimals in that span the
shortest is chosen, and of two equally short ones the nearer; an exact tie goes to the even digit. Everything
is decided in exact whole-number arithmetic.
-/

namespace AsyncReports.Decimal

/-- A finite magnitude `mantissa · 2 ^ exponent`. -/
structure Binary where
  mantissa : Nat
  exponent : Int
deriving DecidableEq

/-- What the bits of a double say, the sign apart. -/
inductive Magnitude
  | zero
  | finite (value : Binary)
  | infinite
  | notANumber
deriving DecidableEq

/-- The least mantissa of a normal double. -/
def normal : Nat := Nat.pow 2 52

def magnitude (x : Float) : Magnitude :=
  let bits := x.toBits.toNat
  let exponent := bits / normal % 2048
  let fraction := bits % normal
  if exponent = 2047 then
    if fraction = 0 then .infinite else .notANumber
  else if exponent = 0 then
    if fraction = 0 then .zero else .finite ⟨fraction, -1074⟩
  else .finite ⟨fraction + normal, (exponent : Int) - 1075⟩

def isNegative (x : Float) : Bool := Nat.pow 2 63 ≤ x.toBits.toNat

/-- The reals that round to a double, as fractions over one denominator; the ends belong to the span when
`closed` is set. -/
structure Span where
  low : Nat
  value : Nat
  high : Nat
  denominator : Nat
  closed : Bool
deriving DecidableEq

/-- Below a power of two the doubles lie twice as close, so there the span reaches half as far. -/
def Binary.span (b : Binary) : Span :=
  let below := if b.mantissa = normal && -1074 < b.exponent then 1 else 2
  let up := Nat.pow 2 (b.exponent - 2).toNat
  ⟨(4 * b.mantissa - below) * up, 4 * b.mantissa * up, (4 * b.mantissa + 2) * up,
    Nat.pow 2 (2 - b.exponent).toNat, b.mantissa % 2 = 0⟩

/-- The span measured in steps of `10 ^ k`. -/
def Span.inSteps (s : Span) (k : Int) : Span :=
  let up := Nat.pow 10 (-k).toNat
  ⟨s.low * up, s.value * up, s.high * up, s.denominator * Nat.pow 10 k.toNat, s.closed⟩

def Span.holds (s : Span) (n : Nat) : Bool :=
  let x := n * s.denominator
  if s.closed then s.low ≤ x && x ≤ s.high else s.low < x && x < s.high

/-- The whole number of steps inside the span that lies nearest to its value, if there is one: only the two
neighbours of the value can be it. -/
def Span.nearest? (s : Span) : Option Nat :=
  let below := s.value / s.denominator
  match s.holds below, s.holds (below + 1) with
  | false, false => none
  | true, false => some below
  | false, true => some (below + 1)
  | true, true =>
    let left := s.value - below * s.denominator
    let right := (below + 1) * s.denominator - s.value
    some <| if left < right || left = right && below % 2 = 0 then below else below + 1

/-- The exponent of the leading decimal digit of `value / denominator`. -/
def leadingExponent (value denominator : Nat) : Int :=
  if denominator ≤ value then
    (Nat.toDigits 10 (value / denominator)).length - 1
  else
    let digits := (Nat.toDigits 10 (denominator / value)).length
    if denominator ≤ value * Nat.pow 10 (digits - 1) then -((digits - 1 : Nat) : Int) else -(digits : Int)

/-- Tries coarser steps before finer ones; seventeen digits are always enough. -/
def firstNearest (s : Span) : Nat → Int → Nat × Int
  | 0, k => ((s.inSteps k).value / (s.inSteps k).denominator, k)
  | tries + 1, k =>
    match (s.inSteps k).nearest? with
    | some n => (n, k)
    | none => firstNearest s tries (k - 1)

/-- Decimal digits, the first of them at `10 ^ exponent`. -/
structure Digits where
  digits : List Char
  exponent : Int
deriving DecidableEq

def dropTrailingZeros (digits : List Char) : List Char :=
  (digits.reverse.dropWhile (· = '0')).reverse

def Binary.shortest (b : Binary) : Digits :=
  let s := b.span
  let found := firstNearest s 17 (leadingExponent s.value s.denominator)
  let digits := Nat.toDigits 10 found.1
  ⟨dropTrailingZeros digits, found.2 + digits.length - 1⟩

end AsyncReports.Decimal
