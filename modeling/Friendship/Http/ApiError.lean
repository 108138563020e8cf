import Friendship.Identity.Error
import Friendship.Json.Value
import Friendship.Log.Event
import Friendship.Relation.Error

/-!
# Errors of the HTTP interface

Errors of the service and of tokens are told with a code, a message and a status. What failed
inside is logged and not told.
-/

namespace Friendship.Http

inductive ErrorCode
  | notFound
  | invalidState
  | invalidArgument
  | invalidToken
  | tokenExpired
  | noSuchRoute
  | internalError
  deriving DecidableEq, Repr

namespace ErrorCode

def name : ErrorCode → String
  | notFound => "NotFound"
  | invalidState => "InvalidState"
  | invalidArgument => "InvalidArgument"
  | invalidToken => "InvalidToken"
  | tokenExpired => "TokenExpired"
  | noSuchRoute => "NoSuchRoute"
  | internalError => "InternalError"

def all : List ErrorCode :=
  [notFound, invalidState, invalidArgument, invalidToken, tokenExpired, noSuchRoute, internalError]

def ofName? (s : String) : Option ErrorCode := all.find? (·.name == s)

def description : ErrorCode → String
  | notFound => "Resource not found"
  | invalidState => "Relationship is in the wrong state"
  | invalidArgument => "Invalid argument"
  | invalidToken => "Token is not valid"
  | tokenExpired => "Token has expired"
  | noSuchRoute => "No such route"
  | internalError => "Internal error"

def status : ErrorCode → Nat
  | notFound | noSuchRoute => 404
  | invalidState => 409
  | invalidArgument => 400
  | invalidToken | tokenExpired => 401
  | internalError => 500

def json (code : ErrorCode) : Json.Value := .string code.name

end ErrorCode

structure ApiError where
  code : ErrorCode
  message : String
  deriving DecidableEq

namespace ApiError

/-- The part of the program that the interface's errors are told by. -/
def logTarget : String := "amity::api::v1::error"

def json (e : ApiError) : Json.Value :=
  .object [("code", e.code.json), ("message", .string e.message)]

/-- An error without details; they are logged. -/
def hidden (reason : String) : Logged ApiError :=
  ⟨⟨.internalError, ErrorCode.internalError.description⟩,
    [⟨.warn, logTarget, some ("Internal error: " ++ reason), []⟩]⟩

def ofRelation : RelationError → Logged ApiError
  | .notFound missing => ⟨⟨.notFound, missing.message⟩, []⟩
  | .invalidState expected found =>
    ⟨⟨.invalidState, (RelationError.invalidState expected found).message⟩, []⟩
  | .invalidArgument misuse =>
    ⟨⟨.invalidArgument, (RelationError.invalidArgument misuse).message⟩, []⟩
  | .internal fault => hidden fault.message

def ofAuth : AuthError → Logged ApiError
  | .tokenInvalid => ⟨⟨.invalidToken, AuthError.tokenInvalid.message⟩, []⟩
  | .tokenExpired => ⟨⟨.tokenExpired, AuthError.tokenExpired.message⟩, []⟩
  | .internal reason => hidden reason

end ApiError
end Friendship.Http
