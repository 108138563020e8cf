import Friendship.Http.Reply
import Friendship.Http.Request
import Friendship.Relation.Decode
import Friendship.Service.Relations

/-!
# Routes

Each action has a route that is posted to, and the friend list one that is got. The caller is
who the token stands for; only then is the body looked at. A path outside the interface has no
route; whatever else does not lead to a reply of its own is told as a method that is not allowed.
-/

namespace Friendship.Http

open Json.Reader (Shape Member document)

/-- One of the seven routes. -/
inductive Route
  | act (action : Action)
  | friendList
  deriving DecidableEq

namespace Route

/-- Where the routes are. -/
def base : List String := ["api", "v1"]

def segment : Route → String
  | act action => action.name
  | friendList => "friend_list"

def method : Route → String
  | act _ => "POST"
  | friendList => "GET"

def all : List Route := Action.all.map act ++ [friendList]

/-- Whether a path below the base is that of the route. -/
def hasPath (route : Route) (path : List Char) : Bool :=
  Request.afterSegment? route.segment path = some []

/-- The route of a method and a path below the base. -/
def find? (method : String) (path : List Char) : Option Route :=
  all.find? fun route => route.method == method && route.hasPath path

end Route

/-- The longest body that is read, in bytes. -/
def bodyLimit : Nat := 4096

/-- The name of a body and of its one member, for an action. -/
def bodyNames : Action → String × String
  | .addFriend => ("RecipientRequest", "recipient")
  | .acceptFriend | .rejectFriend => ("RequesterRequest", "requester")
  | .removeFriend | .blockFriend | .unblockFriend => ("FriendRequest", "friend")

/-- The form of a body: one id under a name. -/
def bodyShape (action : Action) : Shape (Option AccountId) where
  name := (bodyNames action).1
  members := [.of (bodyNames action).2 id (fun _ other => some other) AccountId.decode]

/-- The account that a body names. -/
def decodeBody (action : Action) (body : List UInt8) : Except Rejection AccountId :=
  match document ((bodyShape action).decode none) body with
  | .ok (some other) => .ok other
  | .ok none => .error (.body ⟨.missingField (bodyNames action).2, none⟩)
  | .error e => .error (.body e)

/-- The body of a request, if it is acceptable by its length and type. -/
def readBody (action : Action) (r : Request) : Except Rejection AccountId :=
  match r.contentLength? with
  | none => .error .methodNotAllowed
  | some n =>
    if bodyLimit < n ∨ !r.bodyIsJson then .error .methodNotAllowed
    else decodeBody action r.body

/-- What an authorization begins with. -/
def bearer : String := "Bearer "

/-- What a text goes on with after a given beginning. -/
def textAfter? (lead : String) (s : String) : Option String :=
  if lead.toList.isPrefixOf s.toList then some (String.ofList (s.toList.drop lead.length)) else none

/-- Turns a request down, after telling what there is to tell. -/
def refuse {α : Type} (e : Logged ApiError) : Logged (Except Rejection α) :=
  ⟨.error (.api e.value), e.log⟩

/-- The account that a request is made for. -/
def caller (verify : Verifier) (r : Request) : Logged (Except Rejection AccountId) :=
  match r.header "authorization" with
  | .unreadable => ⟨.error .methodNotAllowed, []⟩
  | .missing => refuse ⟨⟨.invalidToken, "missing bearer token"⟩, []⟩
  | .text s =>
    match textAfter? bearer s with
    | none => refuse ⟨⟨.invalidToken, "missing bearer token"⟩, []⟩
    | some token =>
      match verify token with
      | .ok id => ⟨.ok id, []⟩
      | .error e => refuse (ApiError.ofAuth e)

/-- The part of the program that tells of calls. -/
def logTarget : String := "amity::api::v1::handler"

/-- What is told before an action is carried out. -/
def callEvent (action : Action) (user other : AccountId) : Log.Event :=
  ⟨.debug, logTarget, some action.name,
    [("user_id", .shown user.text), ((bodyNames action).2, .shown other.text)]⟩

/-- What a request asks of the service, or why it is turned down. -/
def ask (verify : Verifier) (route : Route) (r : Request) :
    Logged (Except Rejection Call) :=
  let user := caller verify r
  match user.value with
  | .error e => ⟨.error e, user.log⟩
  | .ok user =>
    match route with
    | .friendList => ⟨.ok (.friends user), []⟩
    | .act action =>
      match readBody action r with
      | .error e => ⟨.error e, []⟩
      | .ok other => ⟨.ok (.transition ⟨action, user, other⟩), [callEvent action user other]⟩

/-- The reply to a call that the service has answered. -/
def replyTo (call : Call) : Except RelationError (List Friend) → Logged Reply
  | .error e =>
    let e := ApiError.ofRelation e
    let reply := (Rejection.api e.value).reply
    ⟨reply.value, e.log ++ reply.log⟩
  | .ok friends =>
    match call with
    | .transition _ => ⟨.done, []⟩
    | .friends _ => ⟨.friends friends, []⟩

/-- What a request asks for, or why it is turned down. -/
def route (verify : Verifier) (r : Request) : Logged (Except Rejection Call) :=
  match Request.afterSegments? Route.base r.segmentsFrom with
  | none => ⟨.error .noSuchRoute, []⟩
  | some path =>
    match Route.find? r.method path with
    | none => ⟨.error .methodNotAllowed, []⟩
    | some route => ask verify route r

/-- Answers a request. -/
def answer {σ : Type} (verify : Verifier) (backend : Backend σ) (policy : Policy) (s : σ)
    (r : Request) : Logged Reply × σ :=
  let asked := route verify r
  match asked.value with
  | .error rejection =>
    let reply := rejection.reply
    (⟨reply.value, asked.log ++ reply.log⟩, s)
  | .ok call =>
    let (answered, s) := Service.call backend policy s call
    let reply := replyTo call answered.value
    (⟨reply.value, asked.log ++ answered.log ++ reply.log⟩, s)

end Friendship.Http
