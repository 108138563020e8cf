import Friendship.Account.Id
import Friendship.Arithmetic
import Friendship.Text.Hex

/-!
# The text of an account id

An id is written as 32 lower-case hexadecimal digits in groups of 8, 4, 4, 4 and 12, joined by
hyphens. It is read from that form, from the same form inside braces or after `urn:uuid:`, and
from the 32 digits alone; digits and `urn:uuid:` may be in either case.
-/

namespace Friendship

/-- Why a text is not an id. Lengths and places are counted in bytes. -/
inductive IdTextError
  | length (found : Nat)
  | character (found : Char) (place : Nat)
  | groupCount (found : Nat)
  | groupLength (group expected found : Nat)
  deriving DecidableEq, Repr

def IdTextError.message : IdTextError → String
  | length n => s!"invalid length: found {n}"
  | character c i => s!"invalid character: found `{c}` at {i}"
  | groupCount n => s!"invalid group count: expected 5, found {n}"
  | groupLength g e n => s!"invalid group length in group {g}: expected {e}, found {n}"

namespace AccountId

/-- The five hyphenated groups of digits. -/
def chars (id : AccountId) : List Char :=
  Text.Hex.ofBytes (id.bytes.take 4) ++ '-' ::
    (Text.Hex.ofBytes ((id.bytes.drop 4).take 2) ++ '-' ::
      (Text.Hex.ofBytes ((id.bytes.drop 6).take 2) ++ '-' ::
        (Text.Hex.ofBytes ((id.bytes.drop 8).take 2) ++ '-' ::
          Text.Hex.ofBytes (id.bytes.drop 10))))

def text (id : AccountId) : String := String.ofList id.chars

instance : ToString AccountId := ⟨text⟩

/-- The id that exactly 32 digits spell. -/
def ofDigits? (digits : List Char) : Option AccountId :=
  (Text.Hex.bytes? digits).bind ofBytes?

/-- What follows `urn:uuid:`, in any case. -/
def afterUrn? (cs : List Char) : Option (List Char) :=
  if (cs.take 9).map Char.toLower = "urn:uuid:".toList then some (cs.drop 9) else none

/-- The inside of braces, or what follows `urn:uuid:`, or else the whole text; and how many bytes
stand before it. -/
def unwrapped (cs : List Char) : List Char × Nat :=
  match cs with
  | '\x7b' :: inner => if inner.getLast? = some '\x7d' then (inner.dropLast, 1) else (cs, 0)
  | _ =>
    match afterUrn? cs with
    | some rest => (rest, 9)
    | none => (cs, 0)

/-- The part of a text that has to hold digits and hyphens. -/
structure Body where
  chars : List Char
  /-- The place of its first character. -/
  before : Nat
  /-- Whether digits alone will do. -/
  bare : Bool
  /-- The size that is told of the text. -/
  size : Nat

/-- The body of a text. The size of one of the four spellings settles which one is meant; then
places and sizes are those of the digits and hyphens. A text of another size shows it by what is
around them, and places and sizes are those of the whole. -/
def body (cs : List Char) : Body :=
  let size := (cs.map Char.utf8Size).sum
  let (inner, before) := unwrapped cs
  if size = 32 then ⟨cs, 0, true, size⟩
  else if size = 36 then ⟨cs, 0, false, size⟩
  else if size = 36 + 2 ∧ before = 1 ∨ size = 36 + 9 ∧ before = 9 then ⟨inner, 0, false, 36⟩
  else ⟨inner, before, before = 0, size⟩

/-- The first character that is neither a digit nor a hyphen, with its place. -/
def firstForeign? (place : Nat) : List Char → Option (Char × Nat)
  | [] => none
  | c :: rest =>
    if c = '-' ∨ Text.Hex.isDigit c then firstForeign? (place + c.utf8Size) rest
    else some (c, place)

/-- The places of the hyphens, counted from `place`. -/
def hyphens (place : Nat) : List Char → List Nat
  | [] => []
  | c :: rest => if c = '-' then place :: hyphens (place + 1) rest else hyphens (place + 1) rest

/-- The first group that does not end where it should: group number, length wanted, length found. -/
def misplaced? : List (Nat × Nat × Nat × Nat) → Option IdTextError
  | [] => none
  | (group, place, start, expected) :: rest =>
    if place = start + expected then misplaced? rest
    else some (.groupLength group expected (place - start))

/-- Reads digits and hyphens. -/
def Body.read (b : Body) : Except IdTextError AccountId :=
  match firstForeign? b.before b.chars with
  | some (c, i) => .error (.character c i)
  | none =>
    let digits := b.chars.filter (· ≠ '-')
    match hyphens 0 b.chars with
    | [p, q, r, s] =>
      match misplaced? [(0, p, 0, 8), (1, q, 9, 4), (2, r, 14, 4), (3, s, 19, 4)] with
      | some e => .error e
      | none =>
        match ofDigits? digits with
        | some id => .ok id
        | none => .error (.groupLength 4 12 (b.size - 24))
    | places =>
      if places = [] ∧ b.bare then
        match ofDigits? digits with
        | some id => .ok id
        | none => .error (.length b.size)
      else .error (.groupCount (places.length + 1))

/-- Reads any of the four spellings. -/
def readChars (cs : List Char) : Except IdTextError AccountId :=
  let size := (cs.map Char.utf8Size).sum
  if size = 0 ∨ 45 < size then .error (.length size) else (body cs).read

def read (s : String) : Except IdTextError AccountId := readChars s.toList

def read? (s : String) : Option AccountId := (read s).toOption

end AccountId
end Friendship
