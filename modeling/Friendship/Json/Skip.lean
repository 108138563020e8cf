import Friendship.Json.Numbers
import Friendship.Json.Strings

/-!
# Values that nobody asked for

A value of which only the form counts is left behind without limit to its depth. The lists and
objects that are open are kept on a stack.
-/

namespace Friendship.Json.Reader

/-- What is open: a list or an object. -/
inductive Frame
  | list
  | object
  deriving DecidableEq

namespace Frame

def unclosed : Frame → Fault
  | list => .eofList
  | object => .eofObject

def unseparated : Frame → Fault
  | list => .expectedListCommaOrEnd
  | object => .expectedObjectCommaOrEnd

def closer : Frame → Char
  | list => ']'
  | object => '\x7d'

end Frame

/-- What has to come next. -/
inductive Awaited
  /-- A value in what is open, the innermost first. -/
  | value (outer : List Frame)
  /-- More of a list or object, or its end; a comma may come if there is an element already. -/
  | more (frame : Frame) (outer : List Frame) (comma : Bool)

namespace Awaited

/-- What has to come after a value. -/
def afterValue : List Frame → Option Awaited
  | [] => none
  | frame :: outer => some (more frame outer true)

end Awaited

/-- Leaves the name of a member and its colon behind. -/
def skipName : Reader Unit := do
  match ← afterBlanks with
  | none => failNext .eofObject
  | some b =>
    if b ≠ ascii '"' then failNext .keyNotString
    skip
    skipString ((← get).rest.length + 1)
    match ← afterBlanks with
    | none => failNext .eofObject
    | some b => if b = ascii ':' then skip else failNext .expectedColon

/-- Gets ready for an element of a list or object. -/
def skipToElement (frame : Frame) (outer : List Frame) : Reader (Option Awaited) := do
  if frame = .object then skipName
  pure (some (.value (frame :: outer)))

/-- Leaves one piece of what is awaited behind; nothing is awaited after the last. -/
def skipStep : Awaited → Reader (Option Awaited)
  | .value outer => do
    match ← afterBlanks with
    | none => failNext .eofValue
    | some b =>
      if isDigit b then
        skipNumber
        pure (Awaited.afterValue outer)
      else
        match Char.ofNat b.toNat with
        | 'n' => do skip; word ['u', 'l', 'l']; pure (Awaited.afterValue outer)
        | 't' => do skip; word ['r', 'u', 'e']; pure (Awaited.afterValue outer)
        | 'f' => do skip; word ['a', 'l', 's', 'e']; pure (Awaited.afterValue outer)
        | '-' => do skip; skipNumber; pure (Awaited.afterValue outer)
        | '"' => do skip; skipString ((← get).rest.length + 1); pure (Awaited.afterValue outer)
        | '[' => do skip; pure (some (.more .list outer false))
        | '\x7b' => do skip; pure (some (.more .object outer false))
        | _ => failNext .expectedValue
  | .more frame outer comma => do
    match ← afterBlanks with
    | none => failNext frame.unclosed
    | some b =>
      if comma && b = ascii ',' then
        skip
        skipToElement frame outer
      else if b = ascii frame.closer then
        skip
        pure (Awaited.afterValue outer)
      else if comma then failNext frame.unseparated
      else skipToElement frame outer

/-- Leaves everything behind that is awaited. -/
def skipAwaited : Nat → Awaited → Reader Unit
  | 0, _ => failNext .eofValue
  | fuel + 1, awaited => do
    match ← skipStep awaited with
    | none => pure ()
    | some awaited => skipAwaited fuel awaited

/-- Leaves the next value behind. -/
def skipValue : Reader Unit := do
  skipAwaited (2 * (← get).rest.length + 2) (.value [])

end Friendship.Json.Reader
