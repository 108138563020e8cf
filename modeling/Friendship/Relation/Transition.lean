import Friendship.Relation.Error
import Friendship.Relation.Pair
import Friendship.Relation.Policy

/-!
# Transitions

A transition is an action of one account towards another. Given the two rows between them it
plans the row writes that carry the action out; an empty plan means there is nothing to do.
-/

namespace Friendship

/-- `actor` acts towards `other`. -/
structure Transition where
  action : Action
  actor : AccountId
  other : AccountId
  deriving DecidableEq

namespace Transition

/-- Requests are kept in the row from the requester to the recipient, so answering one looks at
the pair from the other side. -/
def pair (t : Transition) : DirectedPair :=
  match t.action with
  | .acceptFriend | .rejectFriend => ⟨t.other, t.actor⟩
  | .addFriend | .removeFriend | .blockFriend | .unblockFriend => ⟨t.actor, t.other⟩

/-- Both rows of a pair get the same status. -/
def symmetric (p : DirectedPair) (status : Status) : List Write :=
  [.put p status, .put p.reversed status]

/-- The deletions that clear the rows of a pair. -/
def clearing (p : DirectedPair) (seen : Snapshot) : List Write :=
  (if seen.forward.isSome then [.delete p] else []) ++
    (if seen.backward.isSome then [.delete p.reversed] else [])

/-- The writes for a transition between two different accounts. -/
def planDistinct (t : Transition) (policy : Policy) (seen : Snapshot) :
    Except RelationError (List Write) :=
  let p := t.pair
  match t.action with
  | .addFriend => .ok (if seen.isEmpty then [.put p .pending] else [])
  | .acceptFriend =>
    if seen.forward = some .pending then .ok (symmetric p .accepted)
    else if policy.strictAccept then .error (.userNotFound t.other)
    else .ok []
  | .rejectFriend =>
    if seen.forward = some .pending then .ok [.delete p] else .error (.userNotFound t.other)
  | .removeFriend =>
    if seen.isEmpty then .error (.userNotFound t.other) else .ok (clearing p seen)
  | .blockFriend => .ok (symmetric p .blocked)
  | .unblockFriend =>
    if seen.isEmpty then .error (.userNotFound t.other)
    else if policy.strictUnblock && !seen.isSymmetric .blocked then
      .error (.invalidState .blocked (seen.forward.or seen.backward))
    else .ok (symmetric p .accepted)

/-- The writes that carry a transition out; nobody is related to itself. -/
def plan (t : Transition) (policy : Policy) (seen : Snapshot) :
    Except RelationError (List Write) :=
  if t.actor = t.other then .error (.invalidArgument (.selfRelation t.action t.actor))
  else t.planDistinct policy seen

end Transition
end Friendship
