import Friendship.Proofs.Http.Alternatives
import Friendship.Proofs.Http.Authority
import Mathlib.Data.List.Forall2

/-!
# One request, one call

Whatever routes are tried, a request comes to one call of the service or to none, and what it leaves
and is replied are what that call leaves and comes to. So requests in order are as good as their
calls in order: `session_refines_calls`. That there is no second call is told by a backend that
keeps a record of what it is asked.
-/
namespace Friendship

namespace Backend

/-- What a backend is asked. -/
inductive Operation
  | mutatePair (p : DirectedPair)
  | listVisible (owner : AccountId)
  | accountExists (id : AccountId)
  deriving DecidableEq

/-- A backend that keeps a record of what it is asked. -/
def recorded {σ : Type} (backend : Backend σ) : Backend (σ × List Operation) where
  mutatePair s p planner :=
    let (attempt, next) := backend.mutatePair s.1 p planner
    (attempt, next, s.2 ++ [.mutatePair p])
  listVisible s owner :=
    let (list, next) := backend.listVisible s.1 owner
    (list, next, s.2 ++ [.listVisible owner])
  accountExists s id :=
    let (live, next) := backend.accountExists s.1 id
    (live, next, s.2 ++ [.accountExists id])

section Recorded

variable {σ : Type} {backend : Backend σ} {s next : σ}

theorem recorded_listVisible {owner : AccountId} {list : Except RelationError (List Friend)}
    (h : backend.listVisible s owner = (list, next)) (record : List Operation) :
    backend.recorded.listVisible (s, record) owner =
      (list, next, record ++ [.listVisible owner]) := by
  simp only [recorded, h]

theorem recorded_accountExists (backend : Backend σ) (s : σ) (record : List Operation)
    (id : AccountId) :
    backend.recorded.accountExists (s, record) id =
      ((backend.accountExists s id).1, (backend.accountExists s id).2,
        record ++ [.accountExists id]) := rfl

end Recorded

end Backend

namespace Service

open Backend (Operation)

variable {σ : Type}

/-- What one call asks of a backend: a transition changes one pair, and a friend list is looked up
once, and then perhaps its owner. -/
inductive Makes : Call → List Operation → Prop
  | transition (t : Transition) : Makes (.transition t) [.mutatePair t.pair]
  | listed (owner : AccountId) : Makes (.friends owner) [.listVisible owner]
  | sought (owner : AccountId) :
    Makes (.friends owner) [.listVisible owner, .accountExists owner]

/-- A call comes to the same whether or not a record is kept, and the record is that of one call. -/
theorem call_recorded (backend : Backend σ) (policy : Policy) (s : σ) (record : List Operation)
    (request : Call) :
    ∃ made, Makes request made ∧
      call backend.recorded policy (s, record) request =
        ((call backend policy s request).1, (call backend policy s request).2, record ++ made) := by
  cases request with
  | transition t => exact ⟨_, .transition t, rfl⟩
  | friends owner =>
    simp only [call]
    rcases hlisted : backend.listVisible s owner with ⟨list, next⟩
    have hrecorded := Backend.recorded_listVisible hlisted record
    rcases list with e | (_ | ⟨first, rest⟩)
    · rw [friends_of_error policy hlisted, friends_of_error policy hrecorded]
      exact ⟨_, .listed owner, rfl⟩
    · rw [friends_of_nil policy hlisted, friends_of_nil policy hrecorded]
      cases policy.emptyListIsNotFound with
      | true => exact ⟨_, .listed owner, rfl⟩
      | false =>
        refine ⟨_, .sought owner, ?_⟩
        rw [if_neg Bool.false_ne_true, if_neg Bool.false_ne_true, Backend.recorded_accountExists,
          List.append_assoc]
        rfl
    · rw [friends_of_cons policy hlisted, friends_of_cons policy hrecorded]
      exact ⟨_, .listed owner, rfl⟩

/-- Carries calls out in order, each by the backend of its time: what each came to, and what they
leave. -/
def callAll (backend : Instant → Backend σ) (policy : Policy) (s : σ) :
    List (Instant × Call) → List (Call × Except RelationError (List Friend)) × σ
  | [] => ([], s)
  | (now, request) :: rest =>
    let (answered, s) := call (backend now) policy s request
    let (results, s) := callAll backend policy s rest
    ((request, answered.value) :: results, s)

end Service

namespace Http

open Backend (Operation)

/-- A request places a call: it is authorised to act as a transition does, or it gets the friend
list of the account that its token stands for. -/
inductive Places (verify : Verifier) (r : Request) : Call → Prop
  | act {t : Transition} (h : Authorised verify r t.action t.actor t.other) :
    Places verify r (.transition t)
  | friendList {user : AccountId} (hmethod : r.method = "GET")
    (hpath : ∃ path, r.Below path ∧ Route.friendList.Spells path)
    (htoken : ∃ token, r.header "authorization" = .text ("Bearer " ++ token) ∧
      verify token = .ok user) : Places verify r (.friends user)

theorem route_eq_ok_iff_places {verify : Verifier} {r : Request} {call : Call} :
    (route verify r).value = .ok call ↔ Places verify r call := by
  constructor
  · intro h
    cases call with
    | transition t => exact .act (authorised_of_route h)
    | friends user =>
      obtain ⟨path, rt, hpath, hrt, hmethod, hasks⟩ := route_eq_ok_iff.1 h
      cases hasks with
      | friendList huser =>
        exact .friendList hmethod.symm ⟨path, hpath, hrt⟩ (caller_eq_ok_iff.1 huser)
  · rintro (⟨⟨hmethod, ⟨path, hpath, hrt⟩, htoken, hbody⟩⟩ | ⟨hmethod, ⟨path, hpath, hrt⟩, htoken⟩)
    · exact route_eq_ok_iff.2 ⟨path, _, hpath, hrt, hmethod.symm,
        .act (caller_eq_ok_iff.2 htoken) (readBody_eq_ok_iff.2 hbody)⟩
    · exact route_eq_ok_iff.2 ⟨path, _, hpath, hrt, hmethod.symm,
        .friendList (caller_eq_ok_iff.2 htoken)⟩

/-- A reply tells what a call came to. It tells a success if and only if there is one, and it tells
which error there is, except for what failed inside. -/
structure Reply.Tells (reply : Reply) (call : Call) (result : Except RelationError (List Friend)) :
    Prop where
  success : (reply.status = 200 ∧ ∃ data error, reply.body = envelope true data error) ↔
    ∃ friends, result = .ok friends
  done : ∀ t, call = .transition t → ∀ friends, result = .ok friends →
    reply = ⟨200, envelope true .null .null⟩
  listed : ∀ owner, call = .friends owner → ∀ friends, result = .ok friends →
    reply = .friends friends
  notFound : ∀ missing, result = .error (.notFound missing) →
    reply = .failure 404 ⟨.notFound, (RelationError.notFound missing).message⟩
  invalidState : ∀ expected found, result = .error (.invalidState expected found) →
    reply = .failure 409
      ⟨.invalidState, (RelationError.invalidState expected found).message⟩
  invalidArgument : ∀ misuse, result = .error (.invalidArgument misuse) →
    reply = .failure 400 ⟨.invalidArgument, (RelationError.invalidArgument misuse).message⟩
  internal : ∀ fault, result = .error (.internal fault) →
    reply = .failure 500 ⟨.internalError, "Internal error"⟩

theorem tells_replyTo (call : Call) (result : Except RelationError (List Friend)) :
    (replyTo call result).value.Tells call result where
  success := by
    cases result with
    | ok friends =>
      refine ⟨fun _ => ⟨friends, rfl⟩, fun _ => ?_⟩
      cases call <;> exact ⟨rfl, _, _, rfl⟩
    | error e =>
      constructor
      · rintro ⟨-, data, error, hbody⟩
        simp [replyTo, Rejection.reply, Reply.failure, Reply.envelope] at hbody
      · rintro ⟨friends, ⟨⟩⟩
  done := by
    rintro t rfl friends rfl
    rfl
  listed := by
    rintro owner rfl friends rfl
    rfl
  notFound := by
    rintro missing rfl
    rfl
  invalidState := by
    rintro expected found rfl
    rfl
  invalidArgument := by
    rintro misuse rfl
    rfl
  internal := by
    rintro fault rfl
    rfl

section Trial

variable {σ : Type} {verify : Verifier} {r : Request}

/-- A request that places a call is served by it, whatever other routes are tried. -/
theorem answerByTrial_of_places (written : List Rejection → String) (backend : Backend σ)
    (policy : Policy) (s : σ) {call : Call} (h : Places verify r call) :
    (answerByTrial written verify backend policy s r).1.value.Tells call
        (Service.call backend policy s call).1.value ∧
      (answerByTrial written verify backend policy s r).2 =
        (Service.call backend policy s call).2 := by
  rw [answerByTrial_eq_answer, answer_of_ok (route_eq_ok_iff_places.2 h)]
  exact ⟨tells_replyTo call _, rfl⟩

/-- What is recorded for a request is what the one call makes that it places, or nothing. -/
def Recorded (verify : Verifier) (r : Request) (made : List Operation) : Prop :=
  (∃ call, Places verify r call ∧ Service.Makes call made) ∨
    (∀ call, ¬ Places verify r call) ∧ made = []

/-- Keeping a record changes no reply, and there is one call on record or none. -/
theorem answerByTrial_recorded (written : List Rejection → String) (verify : Verifier)
    (backend : Backend σ) (policy : Policy) (s : σ) (record : List Operation) (r : Request) :
    ∃ made, Recorded verify r made ∧
      answerByTrial written verify backend.recorded policy (s, record) r =
        ((answerByTrial written verify backend policy s r).1,
          (answerByTrial written verify backend policy s r).2, record ++ made) := by
  simp only [answerByTrial_eq_answer]
  cases hcall : (route verify r).value with
  | error rejection =>
    refine ⟨[], .inr ⟨fun call h => ?_, rfl⟩, ?_⟩
    · rw [route_eq_ok_iff_places.2 h] at hcall
      cases hcall
    · rw [answer_of_error hcall, answer_of_error hcall, List.append_nil]
  | ok call =>
    obtain ⟨made, hmade, hrecorded⟩ := Service.call_recorded backend policy s record call
    refine ⟨made, .inl ⟨call, route_eq_ok_iff_places.1 hcall, hmade⟩, ?_⟩
    rw [answer_of_ok hcall, answer_of_ok hcall, hrecorded]

end Trial

namespace Session

variable {σ : Type}

/-- Answers the requests of a session in order, each over the backend of its time: the replies, and
what the requests leave. -/
def run (written : List Rejection → String) (backend : Instant → Backend σ) (policy : Policy)
    (s : σ) : Session → List Reply × σ
  | [] => ([], s)
  | a :: rest =>
    let (reply, s) := answerByTrial written a.verify (backend a.now) policy s a.request
    let (replies, s) := run written backend policy s rest
    (reply.value :: replies, s)

/-- Each request of a session places the call at its place, and at its time. -/
def PlacesAll : Session → List (Instant × Call) → Prop :=
  List.Forall₂ fun a request => a.now = request.1 ∧ Places a.verify a.request request.2

theorem run_of_placesAll (written : List Rejection → String) (backend : Instant → Backend σ)
    (policy : Policy) (s : σ) {session : Session} {calls : List (Instant × Call)}
    (h : session.PlacesAll calls) :
    List.Forall₂ (fun reply done => reply.Tells done.1 done.2)
        (session.run written backend policy s).1 (Service.callAll backend policy s calls).1 ∧
      (session.run written backend policy s).2 = (Service.callAll backend policy s calls).2 := by
  induction h generalizing s with
  | nil => exact ⟨.nil, rfl⟩
  | @cons a request session calls hfirst _ ih =>
    obtain ⟨now, call⟩ := request
    obtain ⟨rfl, hplaces⟩ := hfirst
    obtain ⟨htells, hstate⟩ :=
      answerByTrial_of_places written (backend a.now) policy s hplaces
    -- The rest of the session and the rest of the calls begin with what this request has left.
    obtain ⟨hreplies, hlast⟩ := ih (answerByTrial written a.verify (backend a.now) policy s
      a.request).2
    simp only [run, Service.callAll]
    rw [hstate] at hreplies hlast ⊢
    exact ⟨.cons htells hreplies, hlast⟩

end Session

end Http

namespace Sample

/-- Alice wants to be rid of Bob, and asks again. -/
def partings : Http.Session := [farewell, farewell]

/-- What she asks. -/
def partingCalls : List (Instant × Call) :=
  let call := Call.transition ⟨.removeFriend, alice, bob⟩
  [(.ofSecond 3, call), (.ofSecond 3, call)]

theorem partings_placesAll : partings.PlacesAll partingCalls :=
  have hplaces := Http.route_eq_ok_iff_places.1 asks_farewell
  .cons ⟨rfl, hplaces⟩ (.cons ⟨rfl, hplaces⟩ .nil)

end Sample

namespace Http

end Http
end Friendship
