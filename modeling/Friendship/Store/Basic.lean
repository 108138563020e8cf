import Friendship.Relation.Planner
import Friendship.Store.Table
import Friendship.Time.Instant

/-!
# The store in memory

The store holds accounts and directed rows. Usernames are never used twice, not even after their
account was deleted; a row is put only between live accounts; and a plan is carried out as a
whole or not at all. A store whose lock was held by a task that failed stays out of use.
-/

namespace Friendship

/-- An account; a deleted one keeps its username. -/
structure Account where
  username : String
  avatar : Int32
  deleted : Bool := false
  deriving DecidableEq

/-- What is stored for a directed pair. -/
@[ext] structure Row where
  status : Status
  /-- When the row was last put. -/
  since : Instant
  deriving DecidableEq

structure Store where
  accounts : Table AccountId Account := .empty
  rows : Table DirectedPair Row := .empty
  /-- A task failed while it held the store. -/
  poisoned : Bool := false

namespace Store

def empty : Store := {}

def isLive (s : Store) (id : AccountId) : Bool :=
  (s.accounts.get? id).any fun account => !account.deleted

/-- The statuses of the two rows of a pair. -/
def snapshot (s : Store) (p : DirectedPair) : Snapshot :=
  ⟨(s.rows.get? p).map Row.status, (s.rows.get? p.reversed).map Row.status⟩

/-- The first account that a plan relates and that is not live, the owner of a row before its
counterparty. -/
def missingEnd? (s : Store) (plan : List Write) : Option AccountId :=
  (plan.flatMap Write.ends).find? fun id => !s.isLive id

/-- The rows after one write. -/
def writeRow (now : Instant) (rows : Table DirectedPair Row) : Write → Table DirectedPair Row
  | .put p status => rows.insert p ⟨status, now⟩
  | .delete p => rows.erase p

/-- The store after the writes of a plan, in order. -/
def writeAll (s : Store) (now : Instant) (plan : List Write) : Store :=
  { s with rows := plan.foldl (writeRow now) s.rows }

/-- Carries a plan out as a whole, or not at all if it relates an account that is not live. -/
def apply (s : Store) (now : Instant) (plan : List Write) : Except RelationError Store :=
  match s.missingEnd? plan with
  | some id => .error (.userNotFound id)
  | none => .ok (s.writeAll now plan)

/-- Shows a planner the rows of a pair and carries out its plan. -/
def mutatePair (s : Store) (now : Instant) (p : DirectedPair) (planner : Planner) :
    Attempt × Store :=
  if s.poisoned then (⟨none, .error (.internal .poisoned)⟩, s)
  else
    let seen := s.snapshot p
    match planner seen with
    | .error e => (⟨some seen, .error e⟩, s)
    | .ok plan =>
      match s.apply now plan with
      | .error e => (⟨some seen, .error e⟩, s)
      | .ok next => (⟨some seen, .ok plan.length⟩, next)

/-- Adds a live account, in place of an older one with its id; its username has to be new. -/
def insertAccount (s : Store) (id : AccountId) (username : String) (avatar : Int32) :
    Except RelationError Store :=
  if s.poisoned then .error (.internal .poisoned)
  else if s.accounts.values.any fun account => account.username == username then
    .error (.invalidArgument (.usernameTaken username))
  else .ok { s with accounts := s.accounts.insert id { username, avatar } }

/-- Marks an account as deleted; its rows stay. -/
def deleteAccount (s : Store) (id : AccountId) : Except RelationError Store :=
  if s.poisoned then .error (.internal .poisoned)
  else
    match s.accounts.get? id with
    | none => .error (.userNotFound id)
    | some account =>
      .ok { s with accounts := s.accounts.insert id { account with deleted := true } }

/-- Whether an account is live. -/
def accountExists (s : Store) (id : AccountId) : Except RelationError Bool :=
  if s.poisoned then .error (.internal .poisoned) else .ok (s.isLive id)

/-- Every row, in the order of owner and counterparty. -/
def listRows (s : Store) : Except RelationError (List (DirectedPair × Status)) :=
  if s.poisoned then .error (.internal .poisoned)
  else .ok (s.rows.toList.map fun (p, row) => (p, row.status))

/-- The store after a task failed while it held it. -/
def poison (s : Store) : Store := { s with poisoned := true }

end Store
end Friendship
