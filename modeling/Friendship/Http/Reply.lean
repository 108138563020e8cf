import Friendship.Account.IdText
import Friendship.Http.ApiError
import Friendship.Json.Fault
import Friendship.Relation.Friend

/-!
# Replies

Every reply is a JSON object that tells whether the request succeeded, with either data or an
error. A request that is turned down is answered by the first of several kinds of rejection.
-/

namespace Friendship

/-- A list entry as an object. -/
def Friend.json (f : Friend) : Json.Value :=
  .object [("user_id", .string f.id.text), ("username", .string f.username),
    ("avatar_id", .integer f.avatar.toInt), ("status", .string f.status.text),
    ("since", .string f.since.text)]

namespace Http

structure Reply where
  status : Nat
  body : Json.Value

namespace Reply

def contentType : String := "application/json"

def envelope (success : Bool) (data error : Json.Value) : Json.Value :=
  .object [("success", .boolean success), ("data", data), ("error", error)]

/-- A request succeeded and there is nothing to tell. -/
def done : Reply := ⟨200, envelope true .null .null⟩

/-- A friend list. -/
def friends (list : List Friend) : Reply :=
  ⟨200, envelope true (.object [("friends", .list (list.map Friend.json))]) .null⟩

def failure (status : Nat) (e : ApiError) : Reply := ⟨status, envelope false .null e.json⟩

end Reply

/-- Why a request was turned down. -/
inductive Rejection
  | api (error : ApiError)
  | noSuchRoute
  /-- The body does not decode. -/
  | body (error : Json.Error)
  | methodNotAllowed
  /-- Something that has no answer of its own. -/
  | foreign (name : String)

namespace Rejection

def reply : Rejection → Logged Reply
  | api error => ⟨.failure error.code.status error, []⟩
  | noSuchRoute => ⟨.failure 404 ⟨.noSuchRoute, "no such route"⟩, []⟩
  | body error =>
    ⟨.failure 400 ⟨.invalidArgument, "Request body deserialize error: " ++ error.message⟩, []⟩
  | methodNotAllowed => ⟨.failure 405 ⟨.noSuchRoute, "method not allowed"⟩, []⟩
  | foreign name =>
    let shown := "Rejection(" ++ name ++ ")"
    ⟨.failure 500 ⟨.internalError, "Unhandled error: " ++ shown⟩,
      [⟨.warn, ApiError.logTarget, some ("Unhandled rejection: " ++ shown), []⟩]⟩

end Rejection
end Http
end Friendship
