import Friendship.Text.Hex
import Friendship.Text.Number

/-!
# Internet addresses

An address of version 4 is four bytes, one of version 6 eight groups of 16 bits. A run of zero
groups may be left out of the text once, and the last two groups may be written as an address of
version 4. The shortest text leaves out the longest run, the first of equally long ones.
-/

namespace Friendship.Network

/-- The front of a text as a value, and the rest. -/
abbrev Front (α : Type) := List Char → Option (α × List Char)

/-- A given character. -/
def character (c : Char) : Front Unit
  | d :: rest => if d = c then some ((), rest) else none
  | [] => none

/-- A decimal number below a bound; it may begin with zeros. -/
def decimal (bound : Nat) : Front Nat := fun cs => do
  let n ← Text.Number.nat? (cs.takeWhile Text.Number.isDigit)
  if n < bound then some (n, cs.dropWhile Text.Number.isDigit) else none

/-- A byte in decimal without needless zeros. -/
def byte : Front UInt8 := fun cs => do
  let digits := cs.takeWhile Text.Number.isDigit
  let n ← Text.Number.nat? digits
  if 3 < digits.length ∨ 255 < n ∨ (digits.head? = some '0' ∧ digits.length ≠ 1) then none
  else some (UInt8.ofNat n, cs.dropWhile Text.Number.isDigit)

/-- An address of version 4. -/
structure Ipv4 where
  a : UInt8
  b : UInt8
  c : UInt8
  d : UInt8
  deriving DecidableEq, Repr

namespace Ipv4

def front : Front Ipv4 := fun cs => do
  let (a, cs) ← byte cs
  let ((), cs) ← character '.' cs
  let (b, cs) ← byte cs
  let ((), cs) ← character '.' cs
  let (c, cs) ← byte cs
  let ((), cs) ← character '.' cs
  let (d, cs) ← byte cs
  some (⟨a, b, c, d⟩, cs)

def text (ip : Ipv4) : String := s!"{ip.a}.{ip.b}.{ip.c}.{ip.d}"

end Ipv4

/-- An address of version 6 by its groups. -/
structure Ipv6 where
  groups : Vector UInt16 8
  deriving DecidableEq, Repr

namespace Ipv6

/-- A group of up to four hexadecimal digits. -/
def group : Front UInt16 := fun cs =>
  let digits := cs.takeWhile Text.Hex.isDigit
  if digits.length = 0 ∨ 4 < digits.length then none
  else
    let n := digits.foldl (fun n c => 16 * n + (Text.Hex.value? c).getD 0) 0
    some (UInt16.ofNat n, cs.dropWhile Text.Hex.isDigit)

/-- The two groups that an address of version 4 makes. -/
def ofIpv4 (ip : Ipv4) : List UInt16 :=
  [UInt16.ofNat (256 * ip.a.toNat + ip.b.toNat), UInt16.ofNat (256 * ip.c.toNat + ip.d.toNat)]

/-- A reader behind a colon, which the first group does not need. -/
def behindColon {α : Type} (first : Bool) (front : Front α) : Front α := fun cs =>
  if first then front cs
  else do
    let ((), cs) ← character ':' cs
    front cs

/-- Groups with colons between them, at most `limit`; whether they end with an address of
version 4; and the rest. -/
def groupsFrom (first : Bool) : Nat → List Char → List UInt16 × Bool × List Char
  | 0, cs => ([], false, cs)
  | limit + 1, cs =>
    let embedded := if limit = 0 then none else behindColon first Ipv4.front cs
    match embedded with
    | some (ip, rest) => (ofIpv4 ip, true, rest)
    | none =>
      match behindColon first group cs with
      | none => ([], false, cs)
      | some (g, rest) =>
        let (more, isEmbedded, rest) := groupsFrom false limit rest
        (g :: more, isEmbedded, rest)

/-- The address of eight groups. -/
def ofGroups? (groups : List UInt16) : Option Ipv6 :=
  if h : groups.toArray.size = 8 then some ⟨⟨groups.toArray, h⟩⟩ else none

def front : Front Ipv6 := fun cs => do
  let (head, isEmbedded, rest) := groupsFrom true 8 cs
  if head.length = 8 then do some (← ofGroups? head, rest)
  else if isEmbedded then none
  else do
    let ((), rest) ← character ':' rest
    let ((), rest) ← character ':' rest
    let (tail, _, rest) := groupsFrom true (7 - head.length) rest
    let zeros := List.replicate (8 - head.length - tail.length) 0
    some (← ofGroups? (head ++ zeros ++ tail), rest)

/-- The longest run of zeros, by its start and its length. -/
def longestRun (groups : List UInt16) : Nat × Nat :=
  let runs := (List.range groups.length).map fun i =>
    (i, ((groups.drop i).takeWhile (· == 0)).length)
  runs.foldl (fun best run => if best.2 < run.2 then run else best) (0, 0)

def groupText (g : UInt16) : String := String.ofList (Nat.toDigits 16 g.toNat)

def groupsText (groups : List UInt16) : String := ":".intercalate (groups.map groupText)

/-- The address of version 4 that an address stands for. -/
def mapped? (ip : Ipv6) : Option Ipv4 :=
  match ip.groups.toList with
  | [0, 0, 0, 0, 0, 0xFFFF, g, h] =>
    let byte (n : Nat) : UInt8 := UInt8.ofNat n
    some ⟨byte (g.toNat / 256), byte g.toNat, byte (h.toNat / 256), byte h.toNat⟩
  | _ => none

def text (ip : Ipv6) : String :=
  match ip.mapped? with
  | some v4 => "::ffff:" ++ v4.text
  | none =>
    let groups := ip.groups.toList
    let (start, length) := longestRun groups
    if 1 < length then
      groupsText (groups.take start) ++ "::" ++ groupsText (groups.drop (start + length))
    else groupsText groups

end Ipv6
end Friendship.Network
