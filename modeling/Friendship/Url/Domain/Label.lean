import Friendship.Url.Domain.Characters
import Friendship.Url.Domain.Direction
import Friendship.Url.Domain.Punycode
import Friendship.Url.Domain.Spelling

/-!
# Labels of domains

A domain is labels with dots between them. It is brought into one way of writing; a label that
stands for characters beyond ASCII must stand for some that are written in that way.
-/

namespace Friendship.Url.Domain

/-- What stands between the dots of a domain. -/
def labels : List Char → List (List Char)
  | [] => [[]]
  | '.' :: rest => [] :: labels rest
  | c :: rest =>
    match labels rest with
    | first :: others => (c :: first) :: others
    | [] => [[c]]

/-- Whether a character is one beyond ASCII. -/
def isForeign (c : Char) : Bool := 0x80 ≤ c.toNat

/-- The characters that a label stands for. -/
def decoded? : List Char → Option (List Char)
  | 'x' :: 'n' :: '-' :: '-' :: rest => do
    let cs ← Punycode.decode? rest
    let isWritten := Spelling.isSettled cs && cs.all fun c => form? c == some [c]
    if isWritten && cs.any isForeign && !rest.any isForeign then some cs else none
  | cs => some cs

/-- Whether the characters of a label go together. -/
def isSound (label : List Char) : Bool :=
  !label.head?.any Text.Marks.isMark && Joiner.areWellPlaced [] label

/-- A text in which a stroke through a sign of comparison has become one character with it. -/
def overlaid : List Char → List Char
  | '<' :: '\u0338' :: rest => '≮' :: overlaid rest
  | '>' :: '\u0338' :: rest => '≯' :: overlaid rest
  | c :: rest => c :: overlaid rest
  | [] => []

/-- A domain as it is written, if it is one. -/
def read? (cs : List Char) : Option (List Char) := do
  let forms ← (overlaid cs).mapM form?
  let written := forms.flatten
  let decoded ← (labels written).mapM decoded?
  if decoded.all isSound && Direction.areClear decoded then some written else none

end Friendship.Url.Domain
