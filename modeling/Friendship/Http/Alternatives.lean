import Friendship.Http.Api

/-!
# The routes as alternatives

The routes are tried one after another. Each looks at the method, the segment, the end of the path,
the caller and the body, in this order, and turns the request down at the first that does not fit;
if all fit, the service is called. A request that a route turned down is tried with those that
follow, and what all of them have against it decides the reply: an error of the interface counts
most, then that nothing was found at all, then a body, then a method.
-/

namespace Friendship.Http

namespace Rejection

def isApi : Rejection → Bool
  | api _ => true
  | _ => false

def isBody : Rejection → Bool
  | body _ => true
  | _ => false

def isMethod : Rejection → Bool
  | methodNotAllowed => true
  | _ => false

end Rejection

/-- The rejection that is replied to, of those that several routes have left; a route that found
nothing leaves none. How rejections without an answer of their own are written is not settled
here. -/
def settle (written : List Rejection → String) (left : List Rejection) : Rejection :=
  match left.find? Rejection.isApi with
  | some rejection => rejection
  | none =>
    if left.isEmpty then .noSuchRoute
    else
      match left.find? Rejection.isBody with
      | some rejection => rejection
      | none =>
        if left.any Rejection.isMethod then .methodNotAllowed else .foreign (written left)

namespace Alternative

/-- The account that a request is made for; a header that is no text has no answer of its own. -/
def user (verify : Verifier) (r : Request) : Logged (Except Rejection AccountId) :=
  match r.header "authorization" with
  | .unreadable => ⟨.error (.foreign "InvalidHeader"), []⟩
  | .missing | .text _ => caller verify r

/-- The account that a body names; a body without a length, one that is too long and one of another
type have no answer of their own. -/
def other (action : Action) (r : Request) : Except Rejection AccountId :=
  match r.contentLength? with
  | none => .error (.foreign "LengthRequired")
  | some n =>
    if bodyLimit < n then .error (.foreign "PayloadTooLarge")
    else if !r.bodyIsJson then .error (.foreign "UnsupportedMediaType")
    else decodeBody action r.body

/-- What a request of a route asks of the service, or what is against it. -/
def ask (verify : Verifier) (route : Route) (r : Request) : Logged (Except Rejection Call) :=
  let caller := user verify r
  match caller.value with
  | .error e => ⟨.error e, caller.log⟩
  | .ok user =>
    match route with
    | .friendList => ⟨.ok (.friends user), caller.log⟩
    | .act action =>
      match other action r with
      | .error e => ⟨.error e, caller.log⟩
      | .ok other =>
        ⟨.ok (.transition ⟨action, user, other⟩), caller.log ++ [callEvent action user other]⟩

/-- What came of trying a request: a reply, or all that is against it. -/
abbrev Tried (σ : Type) := Logged (Except (List Rejection) Reply) × σ

variable {σ : Type} (verify : Verifier) (backend : Backend σ) (policy : Policy)

/-- Calls the service for a request. -/
def serve (s : σ) (call : Call) : Tried σ :=
  let (answered, s) := Service.call backend policy s call
  match answered.value with
  | .error e =>
    let e := ApiError.ofRelation e
    (⟨.error [.api e.value], answered.log ++ e.log⟩, s)
  | .ok friends =>
    match call with
    | .transition _ => (⟨.ok .done, answered.log⟩, s)
    | .friends _ => (⟨.ok (.friends friends), answered.log⟩, s)

/-- Tries one route with a request and its path below the base. -/
def attempt (r : Request) (path : List Char) (s : σ) (route : Route) : Tried σ :=
  if route.method ≠ r.method then (⟨.error [.methodNotAllowed], []⟩, s)
  else
    match Request.afterSegment? route.segment path with
    | none | some (_ :: _) => (⟨.error [], []⟩, s)
    | some [] =>
      let asked := ask verify route r
      match asked.value with
      | .error e => (⟨.error [e], asked.log⟩, s)
      | .ok call =>
        let (tried, s) := serve backend policy s call
        (⟨tried.value, asked.log ++ tried.log⟩, s)

/-- Tries routes in order until one replies. -/
def attemptAll (r : Request) (path : List Char) (s : σ) : List Route → Tried σ
  | [] => (⟨.error [], []⟩, s)
  | route :: routes =>
    let (first, s) := attempt verify backend policy r path s route
    match first.value with
    | .ok reply => (⟨.ok reply, first.log⟩, s)
    | .error left =>
      let (rest, s) := attemptAll r path s routes
      (⟨rest.value.mapError (left ++ ·), first.log ++ rest.log⟩, s)

/-- The reply to what came of all routes. -/
def conclude (written : List Rejection → String) (tried : Tried σ) : Logged Reply × σ :=
  match tried.1.value with
  | .ok reply => (⟨reply, tried.1.log⟩, tried.2)
  | .error left =>
    let reply := (settle written left).reply
    (⟨reply.value, tried.1.log ++ reply.log⟩, tried.2)

end Alternative

/-- Answers a request by trying the routes. -/
def answerByTrial {σ : Type} (written : List Rejection → String) (verify : Verifier)
    (backend : Backend σ) (policy : Policy) (s : σ) (r : Request) : Logged Reply × σ :=
  match Request.afterSegments? Route.base r.segmentsFrom with
  | none => Alternative.conclude written (⟨.error [], []⟩, s)
  | some path =>
    Alternative.conclude written
      (Alternative.attemptAll verify backend policy r path s Route.all)

end Friendship.Http
