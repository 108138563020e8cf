/-!
# Decimal numbers in texts

Whole numbers are written without a leading zero or a plus sign. They are read from digits
alone, or with a sign where the reader allows one.
-/

namespace Friendship.Text.Number

/-- The value of a decimal digit. -/
def digit? (c : Char) : Option Nat :=
  if '0' ≤ c ∧ c ≤ '9' then some (c.toNat - 48) else none

def isDigit (c : Char) : Bool := (digit? c).isSome

/-- The number that digits spell, continuing from `acc`. -/
def valueFrom (acc : Nat) : List Char → Option Nat
  | [] => some acc
  | c :: rest => (digit? c).bind fun d => valueFrom (10 * acc + d) rest

/-- The number that one or more digits spell. -/
def nat? : List Char → Option Nat
  | [] => none
  | cs => valueFrom 0 cs

/-- Digits after an optional plus sign, below a bound. -/
def unsigned? (bound : Nat) (cs : List Char) : Option Nat :=
  let digits := match cs with
    | '+' :: rest => rest
    | _ => cs
  (nat? digits).filter (· < bound)

/-- Digits after an optional sign, within a signed word of the given half range. -/
def signed? (half : Nat) (cs : List Char) : Option Int :=
  match cs with
  | '-' :: rest => ((nat? rest).filter (· ≤ half)).map fun n => -(n : Int)
  | _ => (unsigned? half cs).map fun n => (n : Int)

/-- A number with zeros in front up to a width. -/
def padded (width n : Nat) : List Char :=
  let digits := Nat.toDigits 10 n
  List.replicate (width - digits.length) '0' ++ digits

def natChars (n : Nat) : List Char := Nat.toDigits 10 n

def intChars (n : Int) : List Char :=
  match n with
  | .ofNat n => natChars n
  | .negSucc n => '-' :: natChars (n + 1)

end Friendship.Text.Number
