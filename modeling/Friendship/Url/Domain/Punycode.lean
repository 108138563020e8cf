import Friendship.Arithmetic

/-!
# Labels in ASCII

Any characters can be written in ASCII: first those of ASCII, then a hyphen, then for each other
one, in the order of code points, how far on it is: numbers in base 36 whose end each digit shows
by being below a threshold. Thresholds follow the size of the numbers before.
-/

namespace Friendship.Url.Domain.Punycode

/-- The value of a digit: small letters, then decimal digits. -/
def digit? (c : Char) : Option Nat :=
  if 'a' ≤ c ∧ c ≤ 'z' then some (c.toNat - 97)
  else if 'A' ≤ c ∧ c ≤ 'Z' then some (c.toNat - 65)
  else if '0' ≤ c ∧ c ≤ '9' then some (c.toNat - 22)
  else none

/-- The threshold of a place, which grows by 36 from digit to digit. -/
def threshold (place bias : Nat) : Nat :=
  if place ≤ bias then 1 else if bias + 26 ≤ place then 26 else place - bias

/-- Divides by 35 until a number is small. -/
def shrink (delta place : Nat) : Nat × Nat :=
  if 455 < delta then shrink (delta / 35) (place + 36) else (delta, place)
termination_by delta
decreasing_by exact Nat.div_lt_self (by omega) (by omega)

/-- The bias behind a number, when there are so many characters. -/
def adapt (delta count : Nat) ( isFirst : Bool) : Nat :=
  let delta := if isFirst then delta / 700 else delta / 2
  let (delta, place) := shrink (delta + delta / count) 0
  place + 36 * delta / (delta + 38)

/-- The sum of a number and what digits add to it, and what follows them. -/
def number (bias place weight sum : Nat) : List Char → Option (Nat × List Char)
  | [] => none
  | c :: rest => do
    let d ← digit? c
    let sum := sum + d * weight
    let t := threshold place bias
    if 2 ^ 32 ≤ sum ∨ 2 ^ 32 ≤ weight then none
    else if d < t then some (sum, rest)
    else number bias (place + 36) (weight * (36 - t)) sum rest

/-- Adds characters to those so far, at most a number of them. Code points are counted from `code`
on, and for each of them the places from the first one, or from `index` on at first. -/
def insertAll (bias code index : Nat) (soFar : List Char) : Nat → List Char → Option (List Char)
  | _, [] => some soFar
  | 0, _ => none
  | n + 1, cs => do
    let (sum, rest) ← number bias 36 1 index cs
    let count := soFar.length + 1
    let code := code + sum / count
    let place := sum % count
    if code.isValidChar then
      let soFar := soFar.take place ++ Char.ofNat code :: soFar.drop place
      insertAll (adapt (sum - index) count (index == 0)) code (place + 1) soFar n rest
    else none

/-- The characters that a label stands for, without what shows that it stands for others. -/
def decode? (cs : List Char) : Option (List Char) :=
  let digits := (cs.reverse.takeWhile (· ≠ '-')).reverse
  let ascii := cs.take (cs.length - digits.length - 1)
  let digits := if ascii.isEmpty then cs else digits
  insertAll 72 0x80 0 ascii digits.length digits

end Friendship.Url.Domain.Punycode
