import Friendship.Relation.Transition

/-!
# How two accounts stand

Two accounts are strangers, one has asked the other, they are friends, or they are blocked. Seen
from one of them there are five standings, each with its own two rows: `ofSnapshot?_eq_some_iff`
says that no two rows belong to more than one. What an action makes of a standing is said here
without any mention of rows.
-/

namespace Friendship

/-- How the first account of a pair stands with the second. -/
inductive Standing
  | strangers
  /-- The first account has asked the second. -/
  | asking
  /-- The second account has asked the first. -/
  | asked
  | friends
  | blocked
  deriving DecidableEq, Repr, Inhabited

namespace Standing

/-- The same, seen from the second account. -/
def reversed : Standing → Standing
  | asking => asked
  | asked => asking
  | strangers => strangers
  | friends => friends
  | blocked => blocked

/-- The two rows of a standing. -/
def snapshot : Standing → Snapshot
  | strangers => ⟨none, none⟩
  | asking => ⟨some .pending, none⟩
  | asked => ⟨none, some .pending⟩
  | friends => ⟨some .accepted, some .accepted⟩
  | blocked => ⟨some .blocked, some .blocked⟩

/-- The standing that two rows tell of; two rows of different statuses, a request in both
directions and a lone row that is no request tell of none. -/
def ofSnapshot? : Snapshot → Option Standing
  | ⟨none, none⟩ => some strangers
  | ⟨some .pending, none⟩ => some asking
  | ⟨none, some .pending⟩ => some asked
  | ⟨some .accepted, some .accepted⟩ => some friends
  | ⟨some .blocked, some .blocked⟩ => some blocked
  | _ => none

/-- The status of the rows, if there are any. -/
def status? : Standing → Option Status
  | strangers => none
  | asking | asked => some .pending
  | friends => some .accepted
  | blocked => some .blocked

@[simp] theorem reversed_reversed (x : Standing) : x.reversed.reversed = x := by
  cases x <;> rfl

@[simp] theorem forward_reversed (x : Standing) :
    x.reversed.snapshot.forward = x.snapshot.backward := by
  cases x <;> rfl

@[simp] theorem backward_reversed (x : Standing) :
    x.reversed.snapshot.backward = x.snapshot.forward := by
  cases x <;> rfl

/-- A row that is a request is there alone. -/
theorem forward_eq_pending_iff {x : Standing} :
    x.snapshot.forward = some .pending ↔ x = asking := by
  cases x <;> decide

theorem backward_eq_pending_iff {x : Standing} :
    x.snapshot.backward = some .pending ↔ x = asked := by
  cases x <;> decide

/-- Friends and blocked accounts have two rows of one status. -/
theorem backward_of_forward {x : Standing} {status : Status}
    (h : x.snapshot.forward = some status) (hstatus : status ≠ .pending) :
    x.snapshot.backward = some status := by
  cases x <;> simp_all [snapshot]

@[simp] theorem ofSnapshot?_snapshot (x : Standing) : ofSnapshot? x.snapshot = some x := by
  cases x <;> rfl

theorem ofSnapshot?_eq_some_iff {seen : Snapshot} {x : Standing} :
    ofSnapshot? seen = some x ↔ seen = x.snapshot := by
  constructor
  · intro h
    unfold ofSnapshot? at h
    split at h <;> cases h <;> rfl
  · rintro rfl; exact ofSnapshot?_snapshot x

/-- Whether an action writes the rows of a pair anew, seen from the pair's first account. That
takes two live accounts. -/
def renews : Action → Standing → Bool
  | .addFriend, x => x = strangers
  | .acceptFriend, x => x = asking
  | .unblockFriend, x => x ≠ strangers
  | .blockFriend, _ => true
  | .rejectFriend, _ | .removeFriend, _ => false

/-- What a transition between two different accounts makes of how they stand, seen from the first
account of its pair. -/
def next (policy : Policy) (t : Transition) (x : Standing) : Except RelationError Standing :=
  match t.action with
  | .addFriend => .ok (if x = strangers then asking else x)
  | .acceptFriend =>
    if x = asking then .ok friends
    else if policy.strictAccept then .error (.userNotFound t.other)
    else .ok x
  | .rejectFriend => if x = asking then .ok strangers else .error (.userNotFound t.other)
  | .removeFriend => if x = strangers then .error (.userNotFound t.other) else .ok strangers
  | .blockFriend => .ok blocked
  | .unblockFriend =>
    if x = strangers then .error (.userNotFound t.other)
    else if policy.strictUnblock && x ≠ blocked then .error (.invalidState .blocked x.status?)
    else .ok friends

/-- What a transition makes of how its two accounts stand, some accounts being live. Nobody is
related to itself, and of two accounts that are not live the first of the pair is told. -/
def after (policy : Policy) (live : AccountId → Bool) (t : Transition) (x : Standing) :
    Except RelationError Standing := do
  if t.actor = t.other then throw (.invalidArgument (.selfRelation t.action t.actor))
  let y ← x.next policy t
  if renews t.action x then
    if let some id := [t.pair.first, t.pair.second].find? fun id => !live id then
      throw (.userNotFound id)
  pure y

end Standing
end Friendship
