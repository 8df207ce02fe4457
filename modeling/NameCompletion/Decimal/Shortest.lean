/-!
# Shortest decimal digits

A finite double that is not zero is `significand * 2 ^ exponent`.  The reals that round to it form
an interval: halfway to its two neighbours, ends included exactly when the significand is even.
`Dyadic.shortest` finds the shortest decimal in that interval: for one digit, two digits and so on
it tests the two neighbours of the value on the decimal grid with so many digits, and takes the
first grid that has a neighbour in the interval.  Of two neighbours the nearer one is taken, and
the larger one when both are equally near.  All of this is exact arithmetic on natural numbers.
-/

namespace NameCompletion.Decimal

/-- A positive double, `significand * 2 ^ exponent`. -/
structure Dyadic where
  significand : Nat
  exponent : Int
  /-- Whether the next smaller double is only half as far away as the next larger one. -/
  atPowerOfTwo : Bool

/-- The decimal number `digits * 10 ^ exponent`. -/
structure Digits where
  digits : Nat
  exponent : Int
  deriving DecidableEq, Repr

/-- How many decimal digits a number has; zero has none. -/
def digitCount (n : Nat) : Nat :=
  if n = 0 then 0 else (Nat.toDigits 10 n).length

/-- The value and the ends of the interval of a dyadic, over one common denominator. -/
structure Interval where
  low : Nat
  value : Nat
  high : Nat
  denominator : Nat
  /-- Whether the ends belong to the interval. -/
  closed : Bool

/-- The reals that round to the dyadic. -/
def Dyadic.interval (d : Dyadic) : Interval :=
  let up := Nat.pow 2 (d.exponent - 2).toNat
  { low := (4 * d.significand - if d.atPowerOfTwo then 1 else 2) * up
    value := 4 * d.significand * up
    high := (4 * d.significand + 2) * up
    denominator := Nat.pow 2 (2 - d.exponent).toNat
    closed := d.significand % 2 == 0 }

/-- The exponent of the power of ten at or just below the value. -/
def Interval.magnitude (i : Interval) : Int :=
  if i.denominator ≤ i.value then (digitCount (i.value / i.denominator) : Int) - 1
  else -(digitCount ((i.denominator - 1) / i.value) : Int)

/-- Whether `digits * 10 ^ exponent` is in the interval. -/
def Interval.holds (i : Interval) (digits : Nat) (exponent : Int) : Bool :=
  let point := digits * Nat.pow 10 exponent.toNat * i.denominator
  let unit := Nat.pow 10 (-exponent).toNat
  if i.closed then decide (i.low * unit ≤ point) && decide (point ≤ i.high * unit)
  else decide (i.low * unit < point) && decide (point < i.high * unit)

/-- The neighbour of the value on the grid of the multiples of `10 ^ exponent` that is in the
interval, the nearer one if both are. -/
def Interval.neighbour? (i : Interval) (exponent : Int) : Option Nat :=
  let value := i.value * Nat.pow 10 (-exponent).toNat
  let step := i.denominator * Nat.pow 10 exponent.toNat
  let below := value / step
  if i.holds below exponent then
    if i.holds (below + 1) exponent && decide (step ≤ 2 * (value % step)) then some (below + 1)
    else some below
  else if i.holds (below + 1) exponent then some (below + 1)
  else none

/-- Tests grids with more and more digits, from `count` on.  A neighbour that needs a digit more
than its grid has is a power of ten. -/
def Interval.search (i : Interval) (count : Nat) : (tries : Nat) → Digits
  | 0 => ⟨0, 0⟩
  | tries + 1 =>
    let exponent := i.magnitude + 1 - count
    match i.neighbour? exponent with
    | some digits =>
      if digits = Nat.pow 10 count then ⟨1, exponent + count⟩ else ⟨digits, exponent⟩
    | none => i.search (count + 1) tries

/-- The shortest decimal that rounds to the dyadic; seventeen digits always suffice. -/
def Dyadic.shortest (d : Dyadic) : Digits :=
  d.interval.search 1 17

/-- The decimal written out without an exponent. -/
def Digits.positional (d : Digits) : List Char :=
  let text := Nat.toDigits 10 d.digits
  if 0 ≤ d.exponent then text ++ List.replicate d.exponent.toNat '0'
  else
    let places := (-d.exponent).toNat
    let padded := List.replicate (places + 1 - text.length) '0' ++ text
    padded.take (padded.length - places) ++ '.' :: padded.drop (padded.length - places)

/-- The dyadic of a double from its fraction and exponent fields. -/
def ofFields (fraction exponentField : Nat) : Dyadic :=
  if exponentField = 0 then
    { significand := fraction, exponent := -1074, atPowerOfTwo := false }
  else
    { significand := Nat.pow 2 52 + fraction
      exponent := exponentField - 1075
      atPowerOfTwo := fraction == 0 && decide (1 < exponentField) }

/-- The text of a double: its shortest digits, never with an exponent and with a point only if there
is a fraction. -/
def ofFloat (x : Float) : String :=
  let bits := x.toBits.toNat
  let fraction := bits % Nat.pow 2 52
  let exponentField := bits / Nat.pow 2 52 % Nat.pow 2 11
  let sign := if bits / Nat.pow 2 63 = 1 then "-" else ""
  if exponentField = 2047 then if fraction = 0 then sign ++ "inf" else "NaN"
  else if exponentField = 0 && fraction = 0 then sign ++ "0"
  else sign ++ String.ofList (ofFields fraction exponentField).shortest.positional

end NameCompletion.Decimal
