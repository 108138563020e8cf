import Friendship.Arithmetic
import Friendship.Json.Cursor

/-!
# Numbers in a JSON text

A number without point and exponent that fits 64 bits is whole; any other is a floating point
number, and so is minus zero. Its digits are gathered while they fit 64 bits, rounded, and
multiplied or divided by the power of ten that is left, also rounded.
-/

namespace Friendship.Json.Reader

open Decimal (Binary64)

/-- A number: whole, of either sign, or floating. -/
inductive Number
  | integer (n : Int)
  | float (x : Binary64)
  deriving DecidableEq

/-- The greatest unsigned number of 64 bits. -/
def wordMax : Nat := 2 ^ 64 - 1

/-- The greatest exponent that is read. -/
def exponentMax : Nat := 2 ^ 31 - 1

def digitValue (b : UInt8) : Nat := b.toNat - 48

/-- Gathers digits while the number fits 64 bits: the number and how many digits it took. -/
def gather (significand count : Nat) : List UInt8 → Nat × Nat
  | [] => (significand, count)
  | b :: rest =>
    let grown := 10 * significand + digitValue b
    if wordMax < grown then (significand, count) else gather grown (count + 1) rest

/-- Brings an exponent within the powers of ten that are finite numbers by dividing by the
greatest of them. -/
def settle (x : Binary64) (exponent : Int) : Nat → Option (Binary64 × Int)
  | 0 => some (x, 0)
  | fuel + 1 =>
    if exponent.natAbs ≤ 308 then some (x, exponent)
    else if x.isZero then some (x, 0)
    else if 0 ≤ exponent then none
    else settle (x.div (.ofDecimal false 1 308)) (exponent + 308) fuel

/-- Digits times a power of ten; it fails if that is too large. -/
def scale (positive : Bool) (significand : Nat) (exponent : Int) : Reader Number := do
  let sign (x : Binary64) : Number := .float (if positive then x else x.neg)
  match settle (.ofNat significand) exponent (exponent.natAbs / 308 + 2) with
  | none => failHere .numberOutOfRange
  | some (x, exponent) =>
    if 0 ≤ exponent then
      match x.mul (.ofDecimal false 1 exponent) with
      | .finite s m e => pure (sign (.finite s m e))
      | .infinite _ | .nan => failHere .numberOutOfRange
    else pure (sign (x.div (.ofDecimal false 1 (-exponent))))

/-- The power of ten after an `e`, added to the one that the digits already have. -/
def exponentPart (positive : Bool) (significand : Nat) (exponent : Int) : Reader Number := do
  skip
  let up ← match ← peek with
    | some 43 => do skip; pure true
    | some 45 => do skip; pure false
    | _ => pure true
  match ← next with
  | none => failHere .eofValue
  | some b =>
    if !isDigit b then failHere .invalidNumber
    else
      let digits ← peekWhile isDigit
      let step (state : Nat × Nat) (d : UInt8) : Nat × Nat :=
        if state.1 ≤ exponentMax then (10 * state.1 + digitValue d, state.2 + 1) else state
      let (n, count) := digits.foldl step (digitValue b, 0)
      if exponentMax < n then
        if significand ≠ 0 ∧ up then
          (digits.take count).forM fun _ => skip
          failHere .numberOutOfRange
        else
          skipWhile isDigit
          pure (.float (if positive then .zero else Binary64.zero.neg))
      else
        skipWhile isDigit
        scale positive significand (if up then exponent + n else exponent - n)

/-- What follows the digits of a number that is not whole. -/
def afterDigits (positive : Bool) (significand : Nat) (exponent : Int) : Reader Number := do
  match ← peek with
  | some 101 | some 69 => exponentPart positive significand exponent
  | _ => scale positive significand exponent

/-- The digits after a point. -/
def fractionPart (positive : Bool) (significand : Nat) (exponent : Int) : Reader Number := do
  skip
  let digits ← peekWhile isDigit
  let (grown, count) := gather significand 0 digits
  skipWhile isDigit
  if digits = [] then
    if (← peek).isSome then failNext .invalidNumber else failNext .eofValue
  afterDigits positive grown (exponent - count)

/-- What follows the whole digits of a number. -/
def afterWhole (positive : Bool) (significand : Nat) : Reader Number := do
  match ← peek with
  | some 46 => fractionPart positive significand 0
  | some 101 | some 69 => exponentPart positive significand 0
  | _ =>
    if positive then pure (.integer significand)
    else if significand = 0 ∨ 2 ^ 63 < significand then
      pure (.float (Binary64.ofNat significand).neg)
    else pure (.integer (-(significand : Int)))

/-- A number, its minus sign being behind. -/
def number (positive : Bool) : Reader Number := do
  match ← next with
  | none => failHere .eofValue
  | some b =>
    if b = 48 then
      if (← peek).any isDigit then failNext .invalidNumber else afterWhole positive 0
    else if isDigit b then
      let digits ← peekWhile isDigit
      let (significand, count) := gather (digitValue b) 0 digits
      skipWhile isDigit
      if count = digits.length then afterWhole positive significand
      else
        let exponent := digits.length - count
        match ← peek with
        | some 46 => fractionPart positive significand exponent
        | _ => afterDigits positive significand exponent
    else failHere .invalidNumber

/-- Leaves an exponent behind. -/
def skipExponent : Reader Unit := do
  skip
  if (← peek).any fun b => b == 43 || b == 45 then skip
  if (← next).any isDigit then skipWhile isDigit else failHere .invalidNumber

/-- Leaves a number behind of which only the form counts, its minus sign being behind. -/
def skipNumber : Reader Unit := do
  match ← next with
  | none => failHere .invalidNumber
  | some b =>
    if b = 48 then
      if (← peek).any isDigit then failNext .invalidNumber
    else if isDigit b then skipWhile isDigit
    else failHere .invalidNumber
    if (← peek) = some 46 then
      skip
      if (← peekWhile isDigit) = [] then failNext .invalidNumber
      skipWhile isDigit
    if (← peek).any fun b => b == 101 || b == 69 then skipExponent

end Friendship.Json.Reader
