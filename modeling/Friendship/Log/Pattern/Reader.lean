import Friendship.Log.Pattern.Fault
import Friendship.Text.Alphanumeric

/-!
# Reading a pattern

A reader stands at a place of a pattern. A pattern may be written with blanks and notes in it that
mean nothing; flags turn that on and off, as they do for what a pattern tells apart.
-/

namespace Friendship.Log.Pattern

open Text.Alphanumeric (isBlank)

/-- What flags change, as far as faults depend on it. -/
structure Modes where
  /-- Letters match in either case. -/
  caseless : Bool := false
  /-- Characters are told apart, and not bytes. -/
  unicode : Bool := true
  /-- Blanks mean nothing, nor does the rest of a line behind a number sign. -/
  spacious : Bool := false
  deriving DecidableEq, Repr

/-- How many characters in front mean nothing in a spacious pattern, in a note or outside. -/
def gap ( inNote : Bool) : List Char → Nat
  | [] => 0
  | c :: rest =>
    if inNote then gap (c ≠ '\n') rest + 1
    else if isBlank c then gap false rest + 1
    else if c = '#' then gap true rest + 1
    else 0

structure Reader where
  rest : List Char
  place : Place := {}
  modes : Modes := {}
  deriving DecidableEq, Repr

namespace Reader

def next? (r : Reader) : Option Char := r.rest.head?

def atEnd (r : Reader) : Bool := r.rest.isEmpty

/-- Goes behind the next character. -/
def forward (r : Reader) : Reader :=
  match r.rest with
  | [] => r
  | '\n' :: rest => { r with rest, place := ⟨r.place.line + 1, 1⟩ }
  | _ :: rest => { r with rest, place := ⟨r.place.line, r.place.column + 1⟩ }

/-- Goes behind a number of characters. -/
def forwardBy (r : Reader) : Nat → Reader
  | 0 => r
  | n + 1 => r.forward.forwardBy n

/-- Goes behind what means nothing. -/
def behindGap (r : Reader) : Reader :=
  if r.modes.spacious then r.forwardBy (gap false r.rest) else r

/-- Goes behind the next character and what means nothing. -/
def step (r : Reader) : Reader := r.forward.behindGap

/-- Goes behind blanks, which mean nothing around a count in any pattern. -/
def behindBlanks (r : Reader) : Reader := r.forwardBy (r.rest.takeWhile isBlank).length

/-- Goes behind the characters of a kind, at most a number of them, and gives these. -/
def run (kind : Char → Bool) : Nat → Reader → List Char × Reader
  | 0, r => ([], r)
  | n + 1, r =>
    match r.next? with
    | none => ([], r)
    | some c =>
      if kind c then
        let (cs, r) := run kind n r.step
        (c :: cs, r)
      else ([], r)

/-- Goes behind a text if it is next. -/
def behind? (r : Reader) (text : String) : Option Reader :=
  if text.toList.isPrefixOf r.rest then some (r.forwardBy text.length) else none

/-- The character behind the next one, as far as it means something. -/
def second? (r : Reader) : Option Char :=
  let rest := r.rest.tail
  if r.modes.spacious then
    match rest.dropWhile isBlank with
    | '#' :: note => (note.dropWhile isBlank).head?
    | rest => rest.head?
  else rest.head?

/-- Nothing, at the place of the reader. -/
def here (r : Reader) : Span := ⟨r.place, r.place⟩

/-- From a place up to the reader. -/
def since (r : Reader) (start : Place) : Span := ⟨start, r.place⟩

/-- The next character. -/
def char (r : Reader) : Span := ⟨r.place, r.forward.place⟩

/-- A fault at the place of the reader. -/
def failHere {α : Type} (r : Reader) (fault : Fault) : Except Error α :=
  .error ⟨fault, r.here, none⟩

/-- A fault of the next character. -/
def failChar {α : Type} (r : Reader) (fault : Fault) : Except Error α :=
  .error ⟨fault, r.char, none⟩

/-- A fault from a place up to the reader. -/
def failSince {α : Type} (r : Reader) (start : Place) (fault : Fault) : Except Error α :=
  .error ⟨fault, r.since start, none⟩

end Reader
end Friendship.Log.Pattern
