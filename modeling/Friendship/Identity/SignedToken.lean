import Friendship.Account.IdText
import Friendship.Arithmetic
import Friendship.Digest.Hmac
import Friendship.Identity.Claims
import Friendship.Identity.Error
import Friendship.Identity.TokenHeader
import Friendship.Text.Base64Url

/-!
# Signed tokens

A signed token is a header, claims and a signature, each in base64 and joined by dots. The
header has to name the algorithm, the signature has to be that of the two parts before it, all
claims have to be there, and the token must not have expired. Issuer and audience have to be
those wanted, and the subject is the account's id. Only a token that is in order up to its
claims is told to have expired.
-/

namespace Friendship

/-- What is wanted of a token. -/
structure TokenPolicy where
  issuer : String
  audience : String
  key : List UInt8

namespace SignedToken

open Json (Reader)
open Json.Reader

/-- How long a token is accepted after it expired, in seconds. -/
def leeway : Int := 60

/-- What stands before and after the last dot. -/
def splitLast? (cs : List Char) : Option (List Char × List Char) :=
  match cs.reverse.span (· ≠ '.') with
  | (after, '.' :: before) => some (before.reverse, after.reverse)
  | _ => none

/-- The three parts of a token. -/
structure Parts where
  header : List Char
  payload : List Char
  signature : List Char

/-- The parts, separated by the last two dots. -/
def Parts.ofChars? (cs : List Char) : Option Parts := do
  let (message, signature) ← splitLast? cs
  let (header, payload) ← splitLast? message
  pure ⟨header, payload, signature⟩

/-- What is signed: header and payload with a dot between them. -/
def Parts.message (p : Parts) : List Char := p.header ++ '.' :: p.payload

/-- The bytes of a text. -/
def bytesOf (cs : List Char) : List UInt8 := (String.ofList cs).toUTF8.data.toList

/-- The signature of a message in base64. -/
def sign (key : List UInt8) (message : List Char) : List Char :=
  Text.Base64Url.encode (Digest.hmac key (bytesOf message))

/-- Reads on whatever fails, leaving the cursor where it stopped. -/
def lenient {α : Type} (reader : Reader (Option α)) : Reader (Option α) :=
  tryCatch reader fun _ => pure none

/-- The seconds that the next value stands for, if it is a number that can be a time. -/
def seconds : Reader (Option Nat) := lenient do
  let b ← valueStart
  if b = ascii '[' then
    skip
    endList
    pure none
  else if b = ascii '\x7b' then
    skip
    endObject
    pure none
  else
    match ← found with
    | .integer n => pure (if 0 ≤ n then some n.toNat else none)
    | .float (.finite negative m e) =>
      let n := Decimal.Binary64.roundAway negative m e
      pure (if (!negative || m = 0) && n < 2 ^ 64 then some n.toNat else none)
    | _ => pure none

/-- When a token is valid, as far as the claims tell it in numbers. -/
structure Validity where
  names : List String := []
  expires : Option Nat := none

/-- A claim that has no effect here. -/
def passed (name : String) (read : Reader Unit) : Member Validity where
  name
  given v := v.names.contains name
  read v := do
    read
    pure { v with names := name :: v.names }
  required := false

def Validity.shape : Shape Validity where
  name := "ClaimsForValidation"
  members :=
    [{ name := "exp",
       given := fun v => v.names.contains "exp",
       read := fun v => do pure ⟨"exp" :: v.names, ← seconds⟩,
       required := false },
     passed "nbf" (do let _ ← seconds),
     passed "sub" skipValue, passed "iss" skipValue, passed "aud" skipValue]

/-- The time at which claims expire, if they can be read for it. -/
def expiry? (payload : List UInt8) : Option Nat :=
  match document (Validity.shape.decode {}) payload with
  | .ok v => v.expires
  | .error _ => none

/-- Claims in order: read in full, with a time at which they expire. -/
def claims? (payload : List UInt8) : Option (Claims × Nat) :=
  match document Claims.decode payload with
  | .ok claims => (expiry? payload).map fun expires => (claims, expires)
  | .error _ => none

/-- The claims of a token whose form and signature are in order. -/
def signedClaims? (policy : TokenPolicy) (token : String) : Option (Claims × Nat) := do
  let parts ← Parts.ofChars? token.toList
  let header ← Text.Base64Url.decode? parts.header
  if TokenHeader.algorithm? header ≠ some .hs256 then none
  if sign policy.key parts.message ≠ parts.signature then none
  claims? (← Text.Base64Url.decode? parts.payload)

/-- Verifies a token at a time in seconds since 1970. -/
def verify (policy : TokenPolicy) (now : Int) : Verifier := fun token =>
  match signedClaims? policy token with
  | none => .error .tokenInvalid
  | some (claims, expires) =>
    if (expires : Int) < now - leeway then .error .tokenExpired
    else if claims.issuer ≠ policy.issuer ∨ claims.audience ≠ policy.audience then
      .error .tokenInvalid
    else
      match AccountId.read claims.subject with
      | .ok id => .ok id
      | .error _ => .error .tokenInvalid

end SignedToken
end Friendship
