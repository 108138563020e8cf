import Friendship.Arithmetic
import Friendship.Decimal.Binary64
import Friendship.Text.Hex
import Friendship.Text.Number
import Friendship.Time.Calendar
import Friendship.Toml.Value

/-!
# Numbers, dates and times

Digits may be grouped by single underscores. Whole numbers have 64 bits with a sign; without a
sign they may also be written with the base 16, 8 or 2. Dates and times are checked against the
calendar and written back in one spelling.
-/

namespace Friendship.Toml

open Text.Number (isDigit nat? padded)

namespace Numbers

/-- Digits with single underscores between them, without the underscores. -/
def grouped? (kind : Char → Bool) : List Char → Option (List Char)
  | [] => none
  | [c] => if kind c then some [c] else none
  | c :: '_' :: rest => if kind c then (grouped? kind rest).map (c :: ·) else none
  | c :: rest => if kind c then (grouped? kind rest).map (c :: ·) else none

/-- Grouped decimal digits that do not begin with a needless zero. -/
def decimal? (cs : List Char) : Option Nat := do
  let digits ← grouped? isDigit cs
  if digits.head? = some '0' ∧ digits.length ≠ 1 then none
  nat? digits

/-- A sign, positive if there is none, and the rest. -/
def sign (cs : List Char) : Bool × List Char :=
  match cs with
  | '-' :: rest => (true, rest)
  | '+' :: rest => (false, rest)
  | _ => (false, cs)

/-- A number within 64 bits. -/
def bounded? (negative : Bool) (n : Nat) : Option Int :=
  if negative then (if n ≤ 2 ^ 63 then some (-(n : Int)) else none)
  else if n < 2 ^ 63 then some (n : Int) else none

/-- The number of digits to a base. -/
def inBase? (base : Nat) (cs : List Char) : Option Int := do
  let digits ← grouped? (fun c => (Text.Hex.value? c).any (· < base)) cs
  bounded? false (digits.foldl (fun n c => base * n + (Text.Hex.value? c).getD 0) 0)

def integer? (cs : List Char) : Option Int :=
  match cs with
  | '0' :: 'x' :: digits => inBase? 16 digits
  | '0' :: 'o' :: digits => inBase? 8 digits
  | '0' :: 'b' :: digits => inBase? 2 digits
  | _ =>
    let (negative, digits) := sign cs
    (decimal? digits).bind (bounded? negative)

/-- The exponent behind its letter; it may begin with zeros. -/
def exponent? (cs : List Char) : Option Int := do
  let (negative, digits) := sign cs
  let n ← nat? (← grouped? isDigit digits)
  pure (if negative then -(n : Int) else (n : Int))

def isExponentLetter (c : Char) : Bool := c == 'e' || c == 'E'

/-- A number with a fraction, an exponent or both; one that is too large is refused. -/
def fractional? (negative : Bool) (cs : List Char) : Option Decimal.Binary64 := do
  let (mantissa, power) := cs.span (!isExponentLetter ·)
  let (whole, point) := mantissa.span (· != '.')
  let n ← decimal? whole
  let fraction ← match point with
    | [] => some []
    | _ :: digits => grouped? isDigit digits
  let exponent ← match power with
    | [] => if point.isEmpty then none else some 0
    | _ :: digits => exponent? digits
  let digits ← nat? (Nat.toDigits 10 n ++ fraction)
  match Decimal.Binary64.ofDecimal negative digits (exponent - fraction.length) with
  | .finite s m e => some (.finite s m e)
  | .infinite _ | .nan => none

def float? (cs : List Char) : Option Decimal.Binary64 :=
  let (negative, rest) := sign cs
  match rest with
  | ['i', 'n', 'f'] => some (.infinite negative)
  | ['n', 'a', 'n'] => some .nan
  | _ => fractional? negative rest

end Numbers

namespace Moment

/-- Takes exactly two digits below a bound. -/
def two? (bound : Nat) : List Char → Option (Nat × List Char)
  | a :: b :: rest => do
    let n ← nat? [a, b]
    if n < bound then some (n, rest) else none
  | _ => none

/-- A date, and what follows it. -/
def date? (cs : List Char) : Option (List Char × List Char) := do
  let year ← if (cs.take 4).length = 4 then nat? (cs.take 4) else none
  let '-' :: cs := cs.drop 4 | none
  let (month, cs) ← two? 13 cs
  let '-' :: cs := cs | none
  let (day, cs) ← two? 32 cs
  if (⟨year, month, day⟩ : Time.Date).isValid then
    some (padded 4 year ++ '-' :: padded 2 month ++ '-' :: padded 2 day, cs)
  else none

/-- A fraction of a second without needless zeros at its end; digits beyond nanoseconds are
dropped, and one digit always stays. -/
def fraction (digits : List Char) : List Char :=
  match ((digits.take 9).reverse.dropWhile (· == '0')).reverse with
  | [] => ['.', '0']
  | shown => '.' :: shown

/-- Seconds, possibly with a fraction, and what follows them. -/
def seconds? (cs : List Char) : Option (List Char × List Char) := do
  let (second, cs) ← two? 61 cs
  match cs with
  | '.' :: rest =>
    let digits := rest.takeWhile isDigit
    if digits.isEmpty then none
    else some (padded 2 second ++ fraction digits, rest.dropWhile isDigit)
  | _ => some (padded 2 second, cs)

/-- A time of day, with or without seconds, and what follows it. -/
def time? (cs : List Char) : Option (List Char × List Char) := do
  let (hour, cs) ← two? 24 cs
  let ':' :: cs := cs | none
  let (minute, cs) ← two? 60 cs
  let clock := padded 2 hour ++ ':' :: padded 2 minute
  match cs with
  | ':' :: cs => do
    let (seconds, cs) ← seconds? cs
    some (clock ++ ':' :: seconds, cs)
  | _ => some (clock, cs)

/-- A distance from UTC that ends a text. -/
def offset? : List Char → Option (List Char)
  | ['Z'] | ['z'] => some ['Z']
  | sign :: cs => do
    let (hours, cs) ← two? 24 cs
    let ':' :: cs := cs | none
    let (minutes, cs) ← two? 60 cs
    if sign ≠ '+' ∧ sign ≠ '-' ∨ !cs.isEmpty then none
    let shown := if hours = 0 ∧ minutes = 0 then '+' else sign
    some (shown :: padded 2 hours ++ ':' :: padded 2 minutes)
  | [] => none

/-- What may follow a date: a time, possibly with a distance from UTC. -/
def timeWithOffset? (cs : List Char) : Option (List Char) := do
  let (time, cs) ← time? cs
  if cs.isEmpty then some time
  else do some (time ++ (← offset? cs))

/-- A date, a time or both in one spelling. -/
def read? (cs : List Char) : Option (List Char) :=
  match date? cs with
  | some (date, []) => some date
  | some (date, c :: rest) =>
    if c = 'T' ∨ c = 't' ∨ c = ' ' then (timeWithOffset? rest).map fun time => date ++ 'T' :: time
    else none
  | none =>
    match time? cs with
    | some (time, []) => some time
    | _ => none

end Moment

/-- The value that a word of digits, letters and signs spells. -/
def wordValue? (cs : List Char) : Option Value :=
  if cs = ['t', 'r', 'u', 'e'] then some (.boolean true)
  else if cs = ['f', 'a', 'l', 's', 'e'] then some (.boolean false)
  else
    ((Numbers.integer? cs).map .integer).or
      (((Numbers.float? cs).map .float).or
        ((Moment.read? cs).map fun text => .moment (String.ofList text)))

end Friendship.Toml
