import Friendship.Arithmetic
import Friendship.Settings.Fault
import Friendship.Text.Lowercase

/-!
# Converting settings

Where a string is wanted, booleans and numbers are written out. Where a boolean is wanted,
numbers other than zero and some words stand for true. Where a whole number is wanted, booleans,
rounded floating point numbers and strings of digits do as well.
-/

namespace Friendship.Settings

/-- Reading a value of a file. -/
abbrev Decoder (α : Type) := Raw → Except ValueError α

/-- Tells where inside a value a fault is. -/
def within {α : Type} (segment : Segment) (result : Except ValueError α) : Except ValueError α :=
  result.mapError fun e => { e with path := segment :: e.path }

/-- A value that cannot be converted, and the file if it belongs to one. -/
def typeFault (file : String) (value : Raw) (found : Unconverted) (expected : String) : Fault :=
  .type found expected (if value.isOfFile then some file else none)

/-- Refuses a value of a type that cannot be converted. -/
def mismatch {α : Type} (file : String) (value : Raw) (found : Unconverted) (expected : String) :
    Except ValueError α :=
  throw ⟨typeFault file value found expected, []⟩

namespace Decoder

def string (file : String) : Decoder String := fun value =>
  match value with
  | .string s => pure s
  | .boolean b => pure (if b then "true" else "false")
  | .integer n => pure (String.ofList (Text.Number.intChars n))
  | .float x => pure (Decimal.FloatFormat.plain.text x)
  | .unit _ => mismatch file value .unit "a string"
  | .list .. => mismatch file value .list "a string"
  | .table .. => mismatch file value .table "a string"

/-- Words that stand for true. -/
def isYes (s : String) : Bool := s = "true" || s = "on" || s = "yes"

/-- Words that stand for false. -/
def isNo (s : String) : Bool := s = "false" || s = "off" || s = "no"

def boolean (file : String) : Decoder Bool := fun value =>
  match value with
  | .boolean b => pure b
  | .integer n => pure (n ≠ 0)
  | .float x => pure (!x.isZero)
  | .string s =>
    let lower := Text.Lowercase.ofString s
    if lower = "1" || isYes lower then pure true
    else if lower = "0" || isNo lower then pure false
    else mismatch file value (.string lower) "a boolean"
  | .unit _ => mismatch file value .unit "a boolean"
  | .list .. => mismatch file value .list "a boolean"
  | .table .. => mismatch file value .table "a boolean"

/-- The nearest whole number within bounds; what is not a number is zero. -/
def clamped (low high : Int) : Decimal.Binary64 → Int
  | .finite negative m e => max low (min high (Decimal.Binary64.roundAway negative m e))
  | .infinite negative => if negative then low else high
  | .nan => 0

/-- A whole number, given how strings of digits are read. -/
def whole (file : String) (low high : Int) (read : List Char → Option Int) : Decoder Int :=
  fun value =>
    match value with
    | .integer n =>
      if n < low then mismatch file value (.signed n) "an unsigned 64 bit or less integer"
      else if high < n then
        mismatch file value (.unsigned n.toNat) "an signed 64 bit or less integer"
      else pure n
    | .boolean b => pure (if b then 1 else 0)
    | .float x => pure (clamped low high x)
    | .string s =>
      let lower := Text.Lowercase.ofString s
      if isYes lower then pure 1
      else if isNo lower then pure 0
      else
        match read lower.toList with
        | some n => pure n
        | none => mismatch file value (.string s) "an integer"
    | .unit _ => mismatch file value .unit "an integer"
    | .list .. => mismatch file value .list "an integer"
    | .table .. => mismatch file value .table "an integer"

/-- A number of 32 bits without a sign. -/
def uint32 (file : String) : Decoder UInt32 := fun value => do
  let read cs := (Text.Number.unsigned? (2 ^ 64) cs).map fun n => (n : Int)
  let n ← whole file 0 (2 ^ 64 - 1) read value
  if n < 2 ^ 32 then pure (UInt32.ofNat n.toNat)
  else throw ⟨.type (.unsigned n.toNat) "an unsigned 32 bit integer" none, []⟩

/-- A number of 32 bits with a sign. -/
def int32 (file : String) : Decoder Int32 := fun value => do
  let n ← whole file (-2 ^ 63) (2 ^ 63 - 1) (Text.Number.signed? (2 ^ 63)) value
  if -2 ^ 31 ≤ n ∧ n < 2 ^ 31 then pure (Int32.ofInt n)
  else throw ⟨.type (.signed n) "an signed 32 bit integer" none, []⟩

/-- An id in any spelling. -/
def id (file : String) : Decoder AccountId := fun value => do
  match AccountId.read (← string file value) with
  | .ok id => pure id
  | .error e => throw ⟨.id e, []⟩

/-- A value that may be nothing. -/
def option {α : Type} (decode : Decoder α) : Decoder (Option α)
  | .unit _ => pure none
  | value => do pure (some (← decode value))

/-- Elements from an index on. -/
def elements {α : Type} (decode : Decoder α) : Nat → List Raw → Except ValueError (List α)
  | _, [] => pure []
  | i, value :: rest => do
    let a ← within (.element i) (decode value)
    let more ← elements decode (i + 1) rest
    pure (a :: more)

def list {α : Type} (decode : Decoder α) : Decoder (List α)
  | .list _ values => elements decode 0 values
  | value => throw ⟨.shape value .list, []⟩

end Decoder
end Friendship.Settings
