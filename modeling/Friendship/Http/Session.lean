import Friendship.Http.Api

/-!
# Sessions

A session is what comes to the routes over a store in memory: requests, each with its time and with
the verifier of that time, as tokens expire. Its visits tell of each request what it found, what it
was replied, and what it left.
-/

namespace Friendship.Http

/-- A request, when it comes, and whom tokens stand for then. -/
structure Arrival where
  now : Instant
  verify : Verifier
  request : Request

/-- Answers a request over a store in memory. -/
def Arrival.serve (policy : Policy) (s : Store) (a : Arrival) : Logged Reply × Store :=
  answer a.verify (.memory a.now) policy s a.request

/-- A request that was answered: the store before it, the reply, and the store after it. -/
structure Visit where
  arrival : Arrival
  before : Store
  reply : Logged Reply
  after : Store

/-- Requests in order. -/
abbrev Session := List Arrival

namespace Session

/-- The store after a session. -/
def store (policy : Policy) (s : Store) : Session → Store
  | [] => s
  | a :: rest => store policy (a.serve policy s).2 rest

/-- The requests of a session, answered in order. -/
def visits (policy : Policy) (s : Store) : Session → List Visit
  | [] => []
  | a :: rest =>
    let (reply, next) := a.serve policy s
    ⟨a, s, reply, next⟩ :: visits policy next rest

@[simp] theorem store_cons (policy : Policy) (s : Store) (a : Arrival) (rest : Session) :
    store policy s (a :: rest) = store policy (a.serve policy s).2 rest := rfl

/-- What holds of every request over every store holds of all visits. -/
theorem forall_visits {policy : Policy} {P : Visit → Prop}
    (h : ∀ (a : Arrival) (s : Store), P ⟨a, s, (a.serve policy s).1, (a.serve policy s).2⟩)
    (s : Store) (session : Session) : ∀ v ∈ session.visits policy s, P v := by
  induction session generalizing s with
  | nil => exact nofun
  | cons a rest ih =>
    intro v hv
    rcases List.mem_cons.1 hv with rfl | hv
    · exact h a s
    · exact ih _ v hv

end Session
end Friendship.Http
