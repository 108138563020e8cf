import Friendship.Identity.KeyFormat

/-!
# Headers of signed tokens

A header names the algorithm of the signature. Its other known members may be missing or null;
otherwise they have to be of the right type, and none may be given twice.
-/

namespace Friendship

/-- What a token may be signed with. -/
inductive SigningAlgorithm
  | hs256
  /-- One of the others, by name. -/
  | other (name : String)
  deriving DecidableEq, Repr

namespace TokenHeader

open Json (Reader)
open Json.Reader

def algorithms : List (String × SigningAlgorithm) :=
  ("HS256", .hs256) :: ["HS384", "HS512", "ES256", "ES384", "RS256", "RS384", "RS512", "PS256",
    "PS384", "PS512", "EdDSA"].map fun name => (name, .other name)

/-- The members that are given, and the algorithm. -/
structure Given where
  names : List String := []
  algorithm : Option SigningAlgorithm := none

/-- A member that has to be well formed but is not used. -/
def unused {α : Type} (name : String) (read : Reader α) : Member Given where
  name
  given g := g.names.contains name
  read g := do
    let _ ← nullable read
    pure { g with names := name :: g.names }
  required := false

/-- A list of texts. -/
def texts : Nat → Bool → Reader Unit
  | 0, _ => failNext .eofList
  | fuel + 1, first => do
    if ← hasElement first then
      let _ ← anyString
      texts fuel false

def textList : Reader Unit := placed do
  if (← valueStart) = ascii '[' then
    skip
    let fuel := (← get).rest.length + 1
    enclosed (texts fuel true) endList
  else mismatch "a sequence"

/-- The description of a key. -/
def key : Reader Unit := do
  if KeyFormat.isKey (← valueInside 1) then pure () else failHere (.custom "no such key")

def shape : Shape Given where
  name := "Header"
  members :=
    [unused "typ" anyString,
     .of "alg" Given.algorithm (fun g a => { g with algorithm := some a }) (variant algorithms),
     unused "cty" anyString, unused "jku" anyString, unused "jwk" key, unused "kid" anyString,
     unused "x5u" anyString, unused "x5c" textList, unused "x5t" anyString,
     unused "x5t#S256" anyString]

/-- The algorithm that a header names. -/
def algorithm? (bytes : List UInt8) : Option SigningAlgorithm :=
  match document (shape.decode {}) bytes with
  | .ok g => g.algorithm
  | .error _ => none

end TokenHeader
end Friendship
