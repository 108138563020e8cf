import Friendship.Arithmetic

/-!
# Binary floating point numbers of 64 bits

A finite number is a whole significand below 2 ^ 53 times a power of two that is at least
2 ^ -1074; the significand is at least 2 ^ 52 unless the power is the least one. A quotient of
natural numbers is rounded to the nearest number, a tie going to the even significand, and to
infinity if it is too large.
-/

namespace Friendship.Decimal

inductive Binary64
  /-- The significand times two to the exponent. -/
  | finite (negative : Bool) (significand : Nat) (exponent : Int)
  | infinite (negative : Bool)
  | nan
  deriving DecidableEq, Repr

namespace Binary64

/-- The quotient to the nearest whole number, a tie going to the even one. -/
def roundDiv (num den : Nat) : Nat :=
  let q := num / den
  let r := num % den
  if 2 * r < den then q
  else if den < 2 * r then q + 1
  else if q % 2 = 0 then q else q + 1

/-- A number divided by a power of two, numerator first. -/
def scaled (num den : Nat) (exponent : Int) : Nat × Nat :=
  if 0 ≤ exponent then (num, den * 2 ^ exponent.toNat) else (num * 2 ^ (-exponent).toNat, den)

/-- The exponent at which a quotient has its 53 leading bits before the point. -/
def leadingExponent (num den : Nat) : Int :=
  let guess : Int := (num.log2 : Int) - (den.log2 : Int) - 53
  let (n, d) := scaled num den guess
  let exponent := if n / d < 2 ^ 53 then guess else guess + 1
  if exponent < -1074 then -1074 else exponent

/-- The number of a rounded significand, which may have become one bit too long. -/
def normalized (negative : Bool) (significand : Nat) (exponent : Int) : Binary64 :=
  let (significand, exponent) :=
    if significand < 2 ^ 53 then (significand, exponent) else (significand / 2, exponent + 1)
  if 971 < exponent then infinite negative else finite negative significand exponent

/-- The number nearest to a quotient. -/
def ofRatio (negative : Bool) (num den : Nat) : Binary64 :=
  if num = 0 then finite negative 0 (-1074)
  else
    let exponent := leadingExponent num den
    let (n, d) := scaled num den exponent
    normalized negative (roundDiv n d) exponent

def zero : Binary64 := finite false 0 (-1074)

/-- The number nearest to a natural number. -/
def ofNat (n : Nat) : Binary64 := ofRatio false n 1

/-- The number nearest to digits times a power of ten. -/
def ofDecimal (negative : Bool) (digits : Nat) (exponent : Int) : Binary64 :=
  let magnitude := (Nat.toDigits 10 digits).length + exponent
  if digits = 0 ∨ magnitude < -330 then finite negative 0 (-1074)
  else if 330 < magnitude then infinite negative
  else if 0 ≤ exponent then ofRatio negative (digits * 10 ^ exponent.toNat) 1
  else ofRatio negative digits (10 ^ (-exponent).toNat)

/-- The size of a finite number as a quotient. -/
def ratio (significand : Nat) (exponent : Int) : Nat × Nat :=
  if 0 ≤ exponent then (significand * 2 ^ exponent.toNat, 1)
  else (significand, 2 ^ (-exponent).toNat)

def isNegative : Binary64 → Bool
  | finite negative _ _ => negative
  | infinite negative => negative
  | nan => false

def isZero : Binary64 → Bool
  | finite _ m _ => m = 0
  | infinite _ | nan => false

def neg : Binary64 → Binary64
  | finite s m e => finite (!s) m e
  | infinite s => infinite (!s)
  | nan => nan

/-- The nearest number to a product of finite numbers; other products are not needed here. -/
def mul : Binary64 → Binary64 → Binary64
  | finite s m e, finite t n f =>
    let (num, den) := ratio (m * n) (e + f)
    ofRatio (s != t) num den
  | infinite s, finite t _ _ => infinite (s != t)
  | finite s _ _, infinite t => infinite (s != t)
  | infinite s, infinite t => infinite (s != t)
  | nan, _ | _, nan => nan

/-- The nearest number to a quotient of a number and a finite number other than zero. -/
def div : Binary64 → Binary64 → Binary64
  | finite s m e, finite t n f =>
    let (num, den) := ratio m (e - f)
    if n = 0 then nan else ofRatio (s != t) num (den * n)
  | infinite s, finite t _ _ => infinite (s != t)
  | finite s _ _, infinite t => finite (s != t) 0 (-1074)
  | infinite _, infinite _ => nan
  | nan, _ | _, nan => nan

/-- The nearest whole number to a finite number, a tie going away from zero. -/
def roundAway (negative : Bool) (significand : Nat) (exponent : Int) : Int :=
  let (num, den) := ratio significand exponent
  let n := (2 * num + den) / (2 * den)
  if negative then -(n : Int) else n

end Binary64
end Friendship.Decimal
