import Friendship.Arithmetic
import Friendship.Http.MediaType
import Friendship.Text.Number

/-!
# Requests

A request has a method, a path, headers and a body, as they come to the routes. The path may follow
a scheme and a host; it is taken apart at slashes, and what follows a question mark or a number sign
does not belong to it. Header names are compared without regard to case. Of several headers of one
name the first counts, except for the length of the body, which all that tell it have to tell alike.
-/

namespace Friendship.Http

structure Request where
  method : String
  path : String
  headers : List (String × List UInt8) := []
  body : List UInt8 := []

/-- A header as the routes see it. -/
inductive HeaderText
  | missing
  /-- It holds other bytes than visible ASCII characters, spaces and tabs. -/
  | unreadable
  | text (s : String)
  deriving DecidableEq

namespace HeaderText

def isVisible (b : UInt8) : Bool := b == 9 || (32 ≤ b && b < 127)

def ofBytes (bytes : List UInt8) : HeaderText :=
  if bytes.all isVisible then .text (String.ofList (bytes.map fun b => Char.ofNat b.toNat))
  else .unreadable

/-- The length that a header tells. -/
def length? : HeaderText → Option Nat
  | .text s => Text.Number.unsigned? (2 ^ 64) s.toList
  | .missing | .unreadable => none

end HeaderText

namespace Request

/-- The path without query and fragment. -/
def pathChars (r : Request) : List Char := r.path.toList.takeWhile fun c => c ≠ '?' && c ≠ '#'

/-- The path from its first segment on; a scheme and a host in front of it are left out. -/
def segmentsFrom (r : Request) : List Char :=
  match r.pathChars with
  | '/' :: rest => rest
  | cs =>
    match cs.dropWhile (· ≠ ':') with
    | ':' :: '/' :: '/' :: rest => (rest.dropWhile (· ≠ '/')).drop 1
    | _ => cs

/-- What is left of a path after a given segment and the slash behind it. -/
def afterSegment? (segment : String) (path : List Char) : Option (List Char) :=
  if path.takeWhile (· ≠ '/') = segment.toList then
    some ((path.dropWhile (· ≠ '/')).drop 1)
  else none

/-- What is left of a path after several segments. -/
def afterSegments? : List String → List Char → Option (List Char)
  | [], path => some path
  | segment :: rest, path => (afterSegment? segment path).bind (afterSegments? rest)

/-- What the headers of a name hold, in order. -/
def values (r : Request) (name : String) : List (List UInt8) :=
  (r.headers.filter fun h => h.1.toLower == name).map Prod.snd

/-- What the first header of a name holds. -/
def header? (r : Request) (name : String) : Option (List UInt8) := (r.values name).head?

def header (r : Request) (name : String) : HeaderText :=
  match r.header? name with
  | none => .missing
  | some bytes => .ofBytes bytes

/-- The length that a request tells for its body. Headers that tell different ones tell none. -/
def contentLength? (r : Request) : Option Nat :=
  match (r.values "content-length").map fun bytes => (HeaderText.ofBytes bytes).length? with
  | [] => none
  | length :: others => if others.all (· == length) then length else none

/-- Whether the body is JSON, as far as the request tells. -/
def bodyIsJson (r : Request) : Bool :=
  match r.header "content-type" with
  | .missing => true
  | .unreadable => false
  | .text s => MediaType.isJson s

end Request
end Friendship.Http
