import Friendship.Decimal.Binary64
import Friendship.Text.Number

/-!
# The shortest decimal of a floating point number

Of the decimals that are read back as a number, those with the fewest digits are considered, and
of these the nearest to the number is its decimal. Which of two equally near ones it is, and
whether it is written positionally or with an exponent, is up to the format.
-/

namespace Friendship.Decimal

/-- Digits times a power of ten. -/
structure Numeral where
  digits : Nat
  exponent : Int
  deriving DecidableEq, Repr

/-- Which of two neighbouring decimals a number halfway between them has. -/
inductive Halfway
  | even
  | up
  deriving DecidableEq, Repr

namespace Binary64

/-- Four times the least and the greatest quotient that is rounded to a number other than zero,
over the common denominator, with the number itself between them. -/
def neighbourhood (significand : Nat) (exponent : Int) : Nat × Nat × Nat × Nat :=
  let (num, den) := ratio 1 exponent
  let low := if significand = 2 ^ 52 ∧ -1074 < exponent then 4 * significand - 1
    else 4 * significand - 2
  (low * num, 4 * significand * num, (4 * significand + 2) * num, 4 * den)

/-- Whether digits times a power of ten lie between two quotients, the ends counting if
`closed`. -/
def isWithin (low high den : Nat) (closed : Bool) (d : Numeral) : Bool :=
  let scale := 10 ^ d.exponent.natAbs
  let (value, den) := if 0 ≤ d.exponent then (d.digits * scale * den, 1)
    else (d.digits * den, scale)
  if closed then low * den ≤ value && value ≤ high * den
  else low * den < value && value < high * den

/-- The decimals with a given exponent next to a quotient, the nearer one first. -/
def nearest (halfway : Halfway) (num den : Nat) (exponent : Int) : List Numeral :=
  let scale := 10 ^ exponent.natAbs
  let (num, den) := if 0 ≤ exponent then (num, den * scale) else (num * scale, den)
  let q := num / den
  let r := num % den
  let upFirst := if 2 * r = den then halfway = .up ∨ q % 2 = 1 else den < 2 * r
  if upFirst then [⟨q + 1, exponent⟩, ⟨q, exponent⟩] else [⟨q, exponent⟩, ⟨q + 1, exponent⟩]

/-- The exponent of the leading decimal digit of a quotient. -/
def leadingDigit (num den : Nat) : Int :=
  if den ≤ num then (Nat.toDigits 10 (num / den)).length - 1
  else -(Nat.toDigits 10 ((den - 1) / num)).length

/-- The first decimal that is read back, for more and more digits. -/
def firstWithin (halfway : Halfway) (low value high den : Nat) (closed : Bool) (lead : Int) :
    Nat → Nat → Numeral
  | _, 0 => ⟨0, 0⟩
  | count, fuel + 1 =>
    match (nearest halfway value den (lead - count)).find? (isWithin low high den closed) with
    | some d => d
    | none => firstWithin halfway low value high den closed lead (count + 1) fuel

/-- A decimal without zeros at the end of its digits. -/
def stripZeros : Nat → Numeral → Numeral
  | 0, d => d
  | fuel + 1, d =>
    if d.digits ≠ 0 ∧ d.digits % 10 = 0 then stripZeros fuel ⟨d.digits / 10, d.exponent + 1⟩ else d

/-- The shortest decimal of a finite number other than zero. -/
def shortest (halfway : Halfway) (significand : Nat) (exponent : Int) : Numeral :=
  let (low, value, high, den) := neighbourhood significand exponent
  stripZeros 20
    (firstWithin halfway low value high den (significand % 2 = 0) (leadingDigit value den) 0 18)

end Binary64

namespace Numeral

open Text.Number (natChars)

/-- The exponent of the leading digit. -/
def magnitude (d : Numeral) : Int := d.exponent + (natChars d.digits).length - 1

/-- All digits with a point where it belongs, and `whole` after a number without fraction. -/
def positional (d : Numeral) (whole : List Char) : List Char :=
  let digits := natChars d.digits
  let count : Int := digits.length
  if 0 ≤ d.exponent then digits ++ List.replicate d.exponent.toNat '0' ++ whole
  else if 0 < count + d.exponent then
    let before := (count + d.exponent).toNat
    digits.take before ++ '.' :: digits.drop before
  else '0' :: '.' :: List.replicate (-(count + d.exponent)).toNat '0' ++ digits

/-- One digit before the point, and the exponent with its sign. -/
def scientific (d : Numeral) : List Char :=
  let digits := natChars d.digits
  let fraction := if digits.length ≤ 1 then [] else '.' :: digits.drop 1
  let exponent := d.magnitude
  let sign := if exponent < 0 then '-' else '+'
  digits.take 1 ++ fraction ++ 'e' :: sign :: natChars exponent.natAbs

end Numeral

/-- How numbers are written. -/
structure FloatFormat where
  /-- What stands after a number without fraction. -/
  whole : String
  /-- The least and the greatest magnitude written positionally; without them all are. -/
  positional : Option (Int × Int)
  infinity : String
  notANumber : String
  halfway : Halfway

namespace FloatFormat

def chars (format : FloatFormat) : Binary64 → List Char
  | .nan => format.notANumber.toList
  | .infinite negative => (if negative then ['-'] else []) ++ format.infinity.toList
  | .finite negative significand exponent =>
    let sign := if negative then ['-'] else []
    if significand = 0 then sign ++ '0' :: format.whole.toList
    else
      let d := Binary64.shortest format.halfway significand exponent
      let isPositional := format.positional.all fun (low, high) =>
        low ≤ d.magnitude ∧ d.magnitude ≤ high
      sign ++ (if isPositional then d.positional format.whole.toList else d.scientific)

def text (format : FloatFormat) (x : Binary64) : String := String.ofList (format.chars x)

/-- All digits, and nothing after a whole number. -/
def plain : FloatFormat := ⟨"", none, "inf", "NaN", .up⟩

/-- Numbers from 0.00001 up to 16 digits before the point are written positionally. -/
def compact : FloatFormat := ⟨".0", some (-5, 15), "inf", "NaN", .even⟩

end FloatFormat
end Friendship.Decimal
