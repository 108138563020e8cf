import Friendship.Text.Number
import Friendship.Time.Calendar

/-!
# Instants

An instant is a whole second since 1970 in UTC and a number of nanoseconds. A leap second is
told by more than a thousand million nanoseconds after the last second of a minute. Instants are
written with the fewest of no, three, six or nine fraction digits that are exact, and a `Z`;
they are read with any offset.
-/

namespace Friendship

/-- A second since 1 January 1970 UTC and nanoseconds after it. -/
structure Instant where
  second : Int
  nano : Nat := 0
  nano_lt : nano < 1000000000 ∨ (nano < 2000000000 ∧ second % 60 = 59) := by decide
  deriving DecidableEq

namespace Instant

open Text.Number

/-- The start of a second. -/
def ofSecond (s : Int) : Instant := ⟨s, 0, Or.inl (by decide)⟩

instance : Inhabited Instant := ⟨ofSecond 0⟩

/-- The instant, if the nanoseconds fit the second. -/
def make? (second : Int) (nano : Nat) : Option Instant :=
  if h : nano < 1000000000 ∨ (nano < 2000000000 ∧ second % 60 = 59) then some ⟨second, nano, h⟩
  else none

/-- Four digits for the years 0 to 9999, else a sign and at least four. -/
def yearChars (year : Int) : List Char :=
  if 0 ≤ year ∧ year ≤ 9999 then padded 4 year.toNat
  else if 0 ≤ year then '+' :: padded 4 year.toNat
  else '-' :: padded 4 (-year).toNat

/-- The fewest of no, three, six or nine digits that are exact. -/
def fractionChars (nano : Nat) : List Char :=
  if nano = 0 then []
  else if nano % 1000000 = 0 then '.' :: padded 3 (nano / 1000000)
  else if nano % 1000 = 0 then '.' :: padded 6 (nano / 1000)
  else '.' :: padded 9 nano

def chars (t : Instant) : List Char :=
  let date := Time.Date.ofDays (t.second / 86400)
  let clock := (t.second % 86400).toNat
  let leap := t.nano / 1000000000
  yearChars date.year ++ '-' :: padded 2 date.month ++ '-' :: padded 2 date.day ++
    'T' :: padded 2 (clock / 3600) ++ ':' :: padded 2 (clock / 60 % 60) ++
    ':' :: padded 2 (clock % 60 + leap) ++ fractionChars (t.nano % 1000000000) ++ ['Z']

def text (t : Instant) : String := String.ofList t.chars

/-- A number of exactly `width` digits, and the rest. -/
def fixed? (width : Nat) (cs : List Char) : Option (Nat × List Char) :=
  if (cs.take width).length = width then
    (nat? (cs.take width)).map fun n => (n, cs.drop width)
  else none

def expect? (c : Char) : List Char → Option (List Char)
  | d :: rest => if d = c then some rest else none
  | [] => none

/-- A year: four digits, or a sign and at least four. -/
def year? : List Char → Option (Int × List Char)
  | '+' :: rest =>
    let digits := rest.takeWhile isDigit
    if 4 ≤ digits.length then (nat? digits).map fun n => ((n : Int), rest.dropWhile isDigit)
    else none
  | '-' :: rest =>
    let digits := rest.takeWhile isDigit
    if 4 ≤ digits.length then (nat? digits).map fun n => (-(n : Int), rest.dropWhile isDigit)
    else none
  | cs => (fixed? 4 cs).map fun (n, rest) => ((n : Int), rest)

/-- Nanoseconds after a point, further digits being dropped; none where there is no point. -/
def fraction? : List Char → Option (Nat × List Char)
  | '.' :: rest =>
    let digits := rest.takeWhile isDigit
    if digits = [] then none
    else
      let nine := digits.take 9
      (nat? (nine ++ List.replicate (9 - nine.length) '0')).map
        fun n => (n, rest.dropWhile isDigit)
  | cs => some (0, cs)

/-- Seconds east of UTC: `Z`, or a sign with hours and minutes. -/
def offset? : List Char → Option Int
  | ['Z'] => some 0
  | ['z'] => some 0
  | sign :: rest => do
    let (hours, rest) ← fixed? 2 rest
    let rest ← expect? ':' rest
    let (minutes, rest) ← fixed? 2 rest
    if rest ≠ [] ∨ 24 ≤ hours ∨ 60 ≤ minutes then none
    let seconds : Int := (hours * 3600 + minutes * 60 : Nat)
    if sign = '+' then some seconds else if sign = '-' then some (-seconds) else none
  | [] => none

/-- Reads a date and time with an offset. -/
def readChars? (cs : List Char) : Option Instant := do
  let (year, cs) ← year? cs
  let cs ← expect? '-' cs
  let (month, cs) ← fixed? 2 cs
  let cs ← expect? '-' cs
  let (day, cs) ← fixed? 2 cs
  let cs ← (expect? 'T' cs).or ((expect? 't' cs).or (expect? ' ' cs))
  let (hour, cs) ← fixed? 2 cs
  let cs ← expect? ':' cs
  let (minute, cs) ← fixed? 2 cs
  let cs ← expect? ':' cs
  let (second, cs) ← fixed? 2 cs
  let (nano, cs) ← fraction? cs
  let offset ← offset? cs
  let date : Time.Date := ⟨year, month, day⟩
  if !date.isValid ∨ 24 ≤ hour ∨ 60 ≤ minute ∨ 60 < second then none
  let leap := second / 60
  let clock : Int := (hour * 3600 + minute * 60 + (second - leap) : Nat)
  make? (date.toDays * 86400 + clock - offset) (nano + leap * 1000000000)

def read? (s : String) : Option Instant := readChars? s.toList

end Instant
end Friendship
