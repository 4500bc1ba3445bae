import Concord.Json.Decode

/-!
# Decimal numbers

A number literal is held as a significand of sixty-four bits and a power of ten. A digit for
which the significand has no room only scales it if it stands before the point, and is left
out if it stands after. The value as a double-precision float is the product of significand
and power, each of the two rounded to a double and the product rounded again. Hence two
spellings of one number, which divide it differently between the two, may differ in value.
-/

namespace Concord.Json

/-- A significand times a power of ten. -/
structure Decimal where
  significand : Nat
  exponent : Int
deriving DecidableEq

/-- The nearest number with fifty-three significant bits. Of two, the even multiple of the
last bit's weight is taken. -/
def roundToDouble (number : Nat) : Nat :=
  let weight := 1 <<< (number.log2 - 52)
  let multiple := number / weight
  let remainder := number % weight
  if 2 * remainder < weight ∨ (2 * remainder = weight ∧ multiple % 2 = 0) then
    multiple * weight
  else (multiple + 1) * weight

/-- The least number that rounds to no finite double: half a unit above the largest one. -/
def doubleLimit : Nat :=
  (1 <<< 1024) - (1 <<< 970)

/-- The value of an exponent with its sign. -/
def exponentValue : List Char → Int
  | '-' :: digits => -(digitsValue digits : Int)
  | '+' :: digits => digitsValue digits
  | digits => digitsValue digits

namespace Decimal

/-- A significand with the digits taken in for which it has room, and the digits from the
first one without room. -/
def takeDigits (significand : Nat) : List Char → Nat × List Char
  | [] => (significand, [])
  | digit :: rest =>
    let longer := digitsValue [digit] + 10 * significand
    if longer < UInt64.size then takeDigits longer rest else (significand, digit :: rest)

/-- The magnitude of a number, given by its digits. -/
def ofLiteral (literal : String) : Decimal :=
  let body := literal.toList.dropWhile fun character => character = '-'
  let whole := body.takeWhile Char.isDigit
  let tail := body.dropWhile Char.isDigit
  let fraction :=
    match tail with
    | '.' :: digits => digits.takeWhile Char.isDigit
    | _ => []
  let written := (tail.dropWhile fun character => character ≠ 'e' && character ≠ 'E').drop 1
  let (significand, scaling) := takeDigits 0 whole
  let (significand, leftOut) := takeDigits significand fraction
  ⟨significand, exponentValue written + scaling.length + leftOut.length - fraction.length⟩

/-- Whether the value as a double is finite. No power of ten beyond the doubles is formed. -/
def isFinite (decimal : Decimal) : Bool :=
  decimal.significand = 0 || decimal.exponent < 0 ||
    (decimal.exponent ≤ 308 &&
      roundToDouble decimal.significand * roundToDouble (Nat.pow 10 decimal.exponent.toNat) <
        doubleLimit)

end Decimal

end Concord.Json
