import NameCompletion.Json.Basic

/-!
# Numerals

How a JSON numeral becomes a number.  A numeral without fraction and exponent that fits into 64
bits is an integer, except for minus zero.  Every other numeral is a double, computed in double
arithmetic from a significand of at most 64 bits and a power of ten:

* digits enter the significand as long as it stays below `2 ^ 64`; the integer digits after that
  only raise the exponent, the fraction digits after that are ignored;
* the significand is rounded to a double and then multiplied or divided once by the power of ten;
  a power beyond `10 ^ 308` is divided out in steps;
* a result that overflows is refused, and one that underflows is zero.

So the double is near the written value, but not always the nearest one.
-/

namespace NameCompletion.Json

/-- The value of a decimal digit. -/
def digitValue (c : Char) : Nat :=
  c.toNat - '0'.toNat

/-- Significands stay below this bound. -/
def significandBound : Nat := Nat.pow 2 64

/-- Appends digits to a significand as long as it stays below the bound; the digits that did not
enter are left. -/
def absorb (significand : Nat) : List Char → Nat × List Char
  | [] => (significand, [])
  | c :: rest =>
    let next := significand * 10 + digitValue c
    if next < significandBound then absorb next rest else (significand, c :: rest)

/-- The double of a power of ten, for exponents up to 308. -/
def tenPower (exponent : Nat) : Float :=
  Float.ofScientific 1 false exponent

/-- Divides by a power of ten, in steps of at most `10 ^ 308`. -/
def divideByTenPower (x : Float) (exponent : Nat) : Float :=
  if exponent ≤ 308 then x / tenPower exponent
  else if x == 0 then x
  else divideByTenPower (x / tenPower 308) (exponent - 308)
termination_by exponent

/-- Multiplies by a power of ten, unless the result overflows. -/
def multiplyByTenPower (x : Float) (exponent : Nat) : Option Float :=
  if exponent ≤ 308 then
    let y := x * tenPower exponent
    if y.isInf then none else some y
  else if x == 0 then some x else none

/-- The double of `significand * 10 ^ exponent`. -/
def scaled (significand : Nat) : Int → Option Float
  | .ofNat exponent => multiplyByTenPower significand.toUInt64.toFloat exponent
  | .negSucc exponent => some (divideByTenPower significand.toUInt64.toFloat (exponent + 1))

/-- The number of an integer numeral whose digits all entered the significand. -/
def integerNumber (negative : Bool) (significand : Nat) : Number :=
  if !negative then .integer significand
  else if 0 < significand ∧ significand ≤ Nat.pow 2 63 then .integer (-significand)
  else .real (-significand.toUInt64.toFloat)

/-- The number of any other numeral. -/
def realNumber (negative : Bool) (significand : Nat) (exponent : Int) : Option Number :=
  (scaled significand exponent).map fun x => .real (if negative then -x else x)

/-- The value of a run of digits. -/
def digitsValue (digits : List Char) : Nat :=
  digits.foldl (fun n c => n * 10 + digitValue c) 0

/-- The parts of a numeral without its sign. -/
structure Numeral where
  digits : List Char
  /-- The digits behind the point, if there is one. -/
  fraction : Option (List Char)
  /-- The exponent, if there is one. -/
  power : Option Int

/-- The number that a numeral stands for, unless it is too large. -/
def Numeral.number? (negative : Bool) (numeral : Numeral) : Option Number :=
  let (significand, excess) := absorb 0 numeral.digits
  match numeral.fraction with
  | some fraction =>
    let (significand, ignored) := absorb significand fraction
    let exponent : Int := excess.length - (fraction.length - ignored.length : Nat)
    realNumber negative significand (exponent + numeral.power.getD 0)
  | none =>
    if numeral.power.isNone && excess.isEmpty then some (integerNumber negative significand)
    else realNumber negative significand (excess.length + numeral.power.getD 0)

/-- Reads as many digits as there are, and one at least. -/
def readDigits (cs : List Char) : Option (List Char × List Char) :=
  let (digits, rest) := cs.span Char.isDigit
  if digits.isEmpty then none else some (digits, rest)

/-- Reads the sign of an exponent. -/
def readSign : List Char → Bool × List Char
  | '+' :: rest => (false, rest)
  | '-' :: rest => (true, rest)
  | rest => (false, rest)

/-- Reads an exponent with its sign. -/
def readPower (cs : List Char) : Option (Int × List Char) :=
  let (negative, rest) := readSign cs
  (readDigits rest).map fun (digits, rest) =>
    (if negative then -(digitsValue digits) else digitsValue digits, rest)

/-- Reads the exponent of a numeral, if there is one. -/
def readExponent : List Char → Option (Option Int × List Char)
  | 'e' :: rest | 'E' :: rest => (readPower rest).map fun (power, rest) => (some power, rest)
  | rest => some (none, rest)

/-- Reads the fraction of a numeral, if there is one. -/
def readFraction : List Char → Option (Option (List Char) × List Char)
  | '.' :: rest => (readDigits rest).map fun (fraction, rest) => (some fraction, rest)
  | rest => some (none, rest)

/-- Whether the digits start with a zero that could be left out. -/
def hasLeadingZero (digits : List Char) : Bool :=
  digits.head? == some '0' && 1 < digits.length

/-- Reads the parts of a numeral after its sign. -/
def readNumeral (cs : List Char) : Option (Numeral × List Char) := do
  let (digits, rest) ← readDigits cs
  if hasLeadingZero digits then none
  else
    let (fraction, rest) ← readFraction rest
    let (power, rest) ← readExponent rest
    some (⟨digits, fraction, power⟩, rest)

/-- Reads a numeral after its sign. -/
def readUnsigned (negative : Bool) (cs : List Char) : Option (Number × List Char) := do
  let (numeral, rest) ← readNumeral cs
  let number ← numeral.number? negative
  some (number, rest)

/-- Reads a numeral. -/
def readNumber : List Char → Option (Number × List Char)
  | '-' :: rest => readUnsigned true rest
  | cs => readUnsigned false cs

end NameCompletion.Json
