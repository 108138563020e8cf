import Friendship.Log.Pattern.Reader

/-!
# What a pattern uses

A pattern that is well written may still use what is not supported: nothing is known here about the
properties of characters or about their cases, and what matches must be whole characters.
-/

namespace Friendship.Log.Pattern

/-- Something in a pattern that may not be supported. -/
inductive Use
  /-- A character, possibly given by the byte that it is. -/
  | literal (c : Char) (ofByte : Bool)
  /-- A character of a class. -/
  | member (c : Char) (ofByte : Bool)
  | any
  | perl (negated : Bool)
  | property
  /-- A class, or a part of one, and whether it names characters itself. -/
  | bracket (negated naming : Bool)
  deriving DecidableEq, Repr

namespace Use

/-- What is wrong with a use where characters are told apart. -/
def faultOfCharacters? ( caseless : Bool) : Use → Option Fault
  | literal .. => if caseless then some .eitherCase else none
  | bracket _ naming => if caseless && naming then some .eitherCase else none
  | perl _ => some .perlClass
  | property => some .property
  | member .. | any => none

/-- What is wrong with a use where bytes are told apart: only those of ASCII are characters. -/
def faultOfBytes? : Use → Option Fault
  | literal c ofByte => if ofByte && 0x80 ≤ c.toNat then some .bytes else none
  | member c ofByte =>
    if c.toNat < 0x80 then none else if ofByte then some .bytes else some .characters
  | perl negated | bracket negated _ => if negated then some .bytes else none
  | any => some .bytes
  | property => some .characters

def fault? (modes : Modes) (use : Use) : Option Fault :=
  if modes.unicode then use.faultOfCharacters? modes.caseless else use.faultOfBytes?

end Use

/-- The uses of a part of a pattern, in the order in which they are looked at. -/
abbrev Uses := List (Use × Span)

/-- The first use that is not supported. -/
def Uses.error? (modes : Modes) (uses : Uses) : Option Error :=
  uses.findSome? fun (use, span) => (use.fault? modes).map fun fault => ⟨fault, span, none⟩

end Friendship.Log.Pattern
