import Friendship.Text.Alphanumeric
import Friendship.Text.Marks

/-!
# Directions of writing in domains

Some letters are written from right to left. If a domain has one of them, all its labels are
written in one direction each, so that it is clear in which order the characters come.
-/

namespace Friendship.Url.Domain

inductive Direction
  | left
  | right
  /-- A digit that is written from the left among letters of either direction. -/
  | digit
  /-- A digit that goes with letters from the right only. -/
  | eastern
  | mark
  | neutral
  deriving DecidableEq, Repr

namespace Direction

/-- Where letters from the right are. -/
def rightBlocks : Text.Ranges :=
  [(0x590, 0x8FF), (0xFB1D, 0xFDFF), (0xFE70, 0xFEFF), (0x10800, 0x10FFF), (0x1E800, 0x1EFFF)]

/-- Characters there that have no direction. -/
def rightNeutrals : Text.Ranges :=
  [(0x606, 0x607), (0x609, 0x60A), (0x60C, 0x60C), (0x60E, 0x60F), (0x66A, 0x66A),
    (0x6DE, 0x6DE), (0x6E9, 0x6E9), (0x7F6, 0x7F9), (0xFD3E, 0xFD4F), (0xFDC8, 0xFDCF),
    (0xFDFD, 0xFDFF), (0x1091F, 0x1091F), (0x10B39, 0x10B3F), (0x1EEF0, 0x1EEF1)]

/-- Digits that go with letters from the right only. -/
def easternDigits : Text.Ranges :=
  [(0x660, 0x669), (0x66B, 0x66C), (0x10D30, 0x10D39), (0x10D40, 0x10D49), (0x10E60, 0x10E7E)]

/-- Digits that are written from the left everywhere. -/
def digits : Text.Ranges := [(0x30, 0x39), (0x6F0, 0x6F9), (0x102E1, 0x102FB)]

def of (c : Char) : Direction :=
  if digits.contains c then .digit
  else if easternDigits.contains c then .eastern
  else if Text.Printable.isJoining c then .mark
  else if rightBlocks.contains c then if rightNeutrals.contains c then .neutral else .right
  else if Text.Alphanumeric.isAlphanumeric c || Text.Marks.isMark c then .left
  else .neutral

/-- Whether the directions of a label agree: the first character has one, no other is against it,
and the last one but for marks is not neutral. -/
def agree (ds : List Direction) : Bool :=
  let last := (ds.reverse.dropWhile (· == .mark)).head?
  match ds with
  | .left :: rest =>
    rest.all (fun d => d != .right && d != .eastern) && (last == some .left || last == some .digit)
  | .right :: rest =>
    rest.all (· != .left) && last != some .neutral &&
      !(rest.contains .digit && rest.contains .eastern)
  | _ => false

/-- Whether the labels of a domain are written in a clear order. -/
def areClear (labels : List (List Char)) : Bool :=
  let directions := labels.map (·.map of)
  let hasRight := directions.any (·.any fun d => d == .right || d == .eastern)
  !hasRight || directions.all fun ds => ds.isEmpty || agree ds

end Direction
end Friendship.Url.Domain
