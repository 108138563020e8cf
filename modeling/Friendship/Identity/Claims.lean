import Friendship.Json.Decode
import Friendship.Json.Value

/-!
# Claims of an access token

A token claims whom it is for, when it was issued and when it expires, who issued it to whom,
and an id of its own. All six claims have to be there.
-/

namespace Friendship

structure Claims where
  subject : String
  expires : Int
  issued : Int
  issuer : String
  audience : String
  id : String
  deriving DecidableEq, Repr

namespace Claims

open Json (Reader)
open Json.Reader

/-- The claims that are given. -/
structure Given where
  subject : Option String := none
  expires : Option Int := none
  issued : Option Int := none
  issuer : Option String := none
  audience : Option String := none
  id : Option String := none

/-- The claims, if all are given. -/
def ofGiven? (g : Given) : Option Claims := do
  pure ⟨← g.subject, ← g.expires, ← g.issued, ← g.issuer, ← g.audience, ← g.id⟩

def shape : Shape Given where
  name := "AccessClaims"
  members :=
    [.of "sub" Given.subject (fun g s => { g with subject := some s }) anyString,
     .of "exp" Given.expires (fun g n => { g with expires := some n }) int64,
     .of "iat" Given.issued (fun g n => { g with issued := some n }) int64,
     .of "iss" Given.issuer (fun g s => { g with issuer := some s }) anyString,
     .of "aud" Given.audience (fun g s => { g with audience := some s }) anyString,
     .of "jti" Given.id (fun g s => { g with id := some s }) anyString]

def decode : Reader Claims := do
  match ofGiven? (← shape.decode {}) with
  | some claims => pure claims
  | none => failValue (.missingField "sub")

/-- The claims as an object. -/
def json (c : Claims) : Json.Value :=
  .object [("sub", .string c.subject), ("exp", .integer c.expires), ("iat", .integer c.issued),
    ("iss", .string c.issuer), ("aud", .string c.audience), ("jti", .string c.id)]

end Claims
end Friendship
