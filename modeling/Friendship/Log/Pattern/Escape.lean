import Friendship.Log.Pattern.Reader
import Friendship.Text.Hex

/-!
# Characters behind a backslash

A backslash takes the meaning from a character or gives one to it.
-/

namespace Friendship.Log.Pattern

/-- What stands for one character, or for a place between two. -/
inductive Atom
  /-- A character, possibly given by the byte that it is. -/
  | literal (c : Char) (ofByte : Bool)
  | any
  /-- Digits, blanks or the characters of words, or all but these. -/
  | perl (negated : Bool)
  | property
  /-- Where words begin or end, or do not. -/
  | wordEdge
  /-- Where lines or the whole begin or end. -/
  | edge
  deriving DecidableEq, Repr

namespace Atom

/-- A character that stands for itself. -/
def plain (c : Char) : Atom := .literal c false

/-- Letters that stand for control characters. -/
def control? : Char → Option Char
  | 'a' => some '\x07'
  | 'f' => some '\x0c'
  | 't' => some '\t'
  | 'n' => some '\n'
  | 'r' => some '\r'
  | 'v' => some '\x0b'
  | _ => none

/-- Letters and angle brackets that get a meaning; all other ASCII characters lose theirs. -/
def ofEscaped? (c : Char) : Option Atom :=
  if c = 'A' ∨ c = 'z' then some .edge
  else if ['b', 'B', '<', '>'].contains c then some .wordEdge
  else if c.toNat < 0x80 && !c.isAlphanum then some (.plain c)
  else (control? c).map .plain

end Atom

/-- How many digits spell a character behind a letter. -/
def hexDigits? : Char → Option Nat
  | 'x' => some 2
  | 'u' => some 4
  | 'U' => some 8
  | _ => none

namespace Reader

/-- The number of hexadecimal digits, continuing from one. -/
def hexNumber (acc : Nat) : Nat → Reader → Except Error (Nat × Reader)
  | 0, r => .ok (acc, r)
  | n + 1, r =>
    match r.next? with
    | none => r.failHere .escapeUnfinished
    | some c =>
      match Text.Hex.value? c with
      | none => r.failChar .hexDigit
      | some d => hexNumber (16 * acc + d) n r.step

/-- Hexadecimal digits in braces: the closing one never comes. -/
def hexInBraces (r : Reader) : Except Error (Atom × Reader) :=
  let (_, last) := r.step.run Text.Hex.isDigit r.rest.length
  if last.atEnd then last.failSince r.place .escapeUnfinished else last.failChar .hexDigit

/-- The character that digits behind a letter spell. -/
def hex (letter : Char) (digits : Nat) (r : Reader) : Except Error (Atom × Reader) := do
  match r.next? with
  | none => r.failHere .escapeUnfinished
  | some '\x7b' => r.hexInBraces
  | some _ =>
    let (number, last) ← r.hexNumber 0 digits
    if number.isValidChar then pure (.literal (Char.ofNat number) (letter == 'x'), last)
    else last.failSince r.place .hexNumber

/-- A property: one letter, as the closing brace of a longer name never comes. -/
def property (r : Reader) : Except Error (Atom × Reader) :=
  match r.next? with
  | none => r.failHere .escapeUnfinished
  | some '\x7b' => (r.run (fun _ => true) r.rest.length).2.failHere .escapeUnfinished
  | some '\\' => r.failChar .propertyInvalid
  | some _ => .ok (.property, r.step)

/-- What follows the edge of a word that begins at a place: if it is an opening brace and a letter
or a hyphen, then the closing brace is missing. -/
def wordEdge (start : Place) (r : Reader) : Except Error (Atom × Reader) :=
  let isName (c : Char) : Bool := c.isAlpha || c == '-'
  if r.next? ≠ some '\x7b' then .ok (.wordEdge, r)
  else if r.step.atEnd then r.step.failSince start .wordBoundaryOrCount
  else if r.step.next?.any isName then
    (r.step.run isName r.rest.length).2.failSince r.place .wordBoundaryUnclosed
  else .ok (.wordEdge, r)

/-- What a backslash that begins at a place says with a character; the reader is at it. -/
def escaped (start : Place) (c : Char) (r : Reader) : Except Error (Atom × Reader) :=
  if c.isDigit then r.forward.failSince start .backreference
  else if c = 'p' ∨ c = 'P' then r.step.property
  else if ['d', 's', 'w'].contains c then .ok (.perl false, r.forward)
  else if ['D', 'S', 'W'].contains c then .ok (.perl true, r.forward)
  else if c = 'b' then r.forward.wordEdge start
  else
    match hexDigits? c, Atom.ofEscaped? c with
    | some digits, _ => r.step.hex c digits
    | none, some atom => .ok (atom, r.forward)
    | none, none => r.forward.failSince start .escapeUnknown

/-- The escape whose backslash is next. -/
def escape (r : Reader) : Except Error (Atom × Reader) :=
  let start := r.place
  let r := r.forward
  match r.next? with
  | none => r.failSince start .escapeUnfinished
  | some c => r.escaped start c

end Reader
end Friendship.Log.Pattern
