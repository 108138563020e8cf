import Friendship.Account.Id

/-!
# Verifying tokens

A verifier tells whom a token stands for, or why it is not accepted.
-/

namespace Friendship

inductive AuthError
  | tokenInvalid
  | tokenExpired
  | internal (reason : String)
  deriving DecidableEq, Repr

def AuthError.message : AuthError → String
  | tokenInvalid => "token invalid"
  | tokenExpired => "token expired"
  | internal reason => "internal error: " ++ reason

/-- The account that a token stands for. -/
abbrev Verifier := String → Except AuthError AccountId

end Friendship
