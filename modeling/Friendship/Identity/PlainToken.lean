import Friendship.Account.IdText
import Friendship.Identity.Error

/-!
# Plain tokens

For development only: the token is the id in clear, after a fixed text.
-/

namespace Friendship.PlainToken

/-- What every plain token begins with. -/
def lead : String := "fake-access-token:"

/-- The token of an account. -/
def ofId (id : AccountId) : String := lead ++ id.text

/-- The rest of a text after a given beginning. -/
def after? : List Char → List Char → Option (List Char)
  | [], cs => some cs
  | _ :: _, [] => none
  | p :: ps, c :: cs => if p = c then after? ps cs else none

/-- Accepts the fixed text followed by an id in any spelling. -/
def verify : Verifier := fun token =>
  match after? lead.toList token.toList with
  | none => .error .tokenInvalid
  | some rest =>
    match AccountId.readChars rest with
    | .ok id => .ok id
    | .error _ => .error .tokenInvalid

end Friendship.PlainToken
