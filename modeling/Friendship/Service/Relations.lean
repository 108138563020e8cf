import Friendship.Log.Event
import Friendship.Relation.Transition
import Friendship.Service.Backend

/-!
# The relation service

A transition is planned on the rows that the backend shows and carried out by it. What came of
it is logged: a change with its number of writes, nothing to do, or a failure of the store;
refusals are not logged. A friend list that is empty is reported as the policy says.
-/

namespace Friendship

/-- One call of the service. -/
inductive Call
  | transition (t : Transition)
  | friends (owner : AccountId)
  deriving DecidableEq

namespace Service

/-- The part of the program that the service's events come from. -/
def logTarget : String := "amity::application_impl::relationship_service_impl"

/-- The name and the pair of a transition, as events tell them. -/
def transitionFields (t : Transition) : List (String × Log.Value) :=
  [("transition", .quoted t.action.name), ("first", .shown t.pair.first.text),
    ("second", .shown t.pair.second.text)]

/-- What is told of a transition's result. -/
def transitionLog (t : Transition) : Except RelationError Nat → List Log.Event
  | .error e =>
    if e.isInternal then
      [⟨.warn, logTarget, some ("store failure: " ++ e.message), transitionFields t⟩]
    else []
  | .ok 0 => [⟨.debug, logTarget, some "nothing to do", transitionFields t⟩]
  | .ok n => [⟨.info, logTarget, none, transitionFields t ++ [("writes", .number n)]⟩]

variable {σ : Type}

/-- Carries a transition out. -/
def perform (backend : Backend σ) (policy : Policy) (s : σ) (t : Transition) :
    Logged (Except RelationError Unit) × σ :=
  let (attempt, s) := backend.mutatePair s t.pair (t.plan policy)
  (⟨attempt.result.map fun _ => (), transitionLog t attempt.result⟩, s)

/-- The friend list of an account; an empty one is an error if the policy says so, and for an
account that is not live. -/
def friends (backend : Backend σ) (policy : Policy) (s : σ) (owner : AccountId) :
    Except RelationError (List Friend) × σ :=
  match backend.listVisible s owner with
  | (.error e, s) => (.error e, s)
  | (.ok (x :: xs), s) => (.ok (x :: xs), s)
  | (.ok [], s) =>
    if policy.emptyListIsNotFound then (.error (.friendsNotFound owner), s)
    else
      match backend.accountExists s owner with
      | (.error e, s) => (.error e, s)
      | (.ok false, s) => (.error (.userNotFound owner), s)
      | (.ok true, s) => (.ok [], s)

section Friends

variable {backend : Backend σ} {s next : σ} {owner : AccountId} (policy : Policy)

theorem friends_of_error {e : RelationError}
    (h : backend.listVisible s owner = (.error e, next)) :
    friends backend policy s owner = (.error e, next) := by
  simp only [friends, h]

theorem friends_of_cons {first : Friend} {rest : List Friend}
    (h : backend.listVisible s owner = (.ok (first :: rest), next)) :
    friends backend policy s owner = (.ok (first :: rest), next) := by
  simp only [friends, h]

/-- What an empty list comes to: unless the policy settles that, its owner is asked for. -/
theorem friends_of_nil (h : backend.listVisible s owner = (.ok [], next)) :
    friends backend policy s owner =
      if policy.emptyListIsNotFound then (.error (.friendsNotFound owner), next)
      else
        ((backend.accountExists next owner).1.bind fun live =>
            if live then .ok [] else .error (.userNotFound owner),
          (backend.accountExists next owner).2) := by
  simp only [friends, h]
  split
  · rfl
  · rcases backend.accountExists next owner with ⟨e | (_ | _), last⟩ <;> rfl

end Friends

/-- Carries a call out; a transition answers with an empty list. -/
def call (backend : Backend σ) (policy : Policy) (s : σ) :
    Call → Logged (Except RelationError (List Friend)) × σ
  | .transition t =>
    let (done, s) := perform backend policy s t
    (⟨done.value.map fun _ => [], done.log⟩, s)
  | .friends owner =>
    let (result, s) := friends backend policy s owner
    (⟨result, []⟩, s)

end Service
end Friendship
