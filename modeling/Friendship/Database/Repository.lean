import Friendship.Database.Dialogue
import Friendship.Database.ForeignKey
import Friendship.Relation.Friend
import Friendship.Relation.Planner

/-!
# The store in a database

A pair is changed in one transaction: its two rows are locked and shown to the planner, the
accounts are checked for deletion if a row is to be put, the writes are made in order, and the
transaction is committed. Whatever fails once the transaction was begun is followed by a
rollback.
-/

namespace Friendship.Database

/-- A dialogue that may end with a relation error. -/
abbrev Request (α : Type) := ExceptT RelationError Dialogue α

/-- Sends a statement of a step; a failure is told with the step. -/
def request (step : Step) (q : Statement) : Request q.Answer :=
  ExceptT.mk (.ask q fun answer => .done (answer.mapError fun e => .internal (.query step e)))

/-- The status of a text that was stored. -/
def readStatus (text : String) : Except RelationError Status :=
  match Status.ofText? text with
  | some status => .ok status
  | none => .error (.internal (.unknownStatus text))

/-- What the locked rows of a pair show. A row that is not the forward one counts as the backward
one, and of two rows for one direction the later counts. -/
def snapshotOf (p : DirectedPair) (rows : List (DirectedPair × String)) :
    Except RelationError Snapshot :=
  rows.foldlM (fun seen (row, text) => do
    let status ← readStatus text
    pure (if row = p then { seen with forward := some status }
      else { seen with backward := some status })) {}

/-- The first account that a plan relates and that is deleted, the owner of a row before its
counterparty. -/
def retiredEnd? (retired : List AccountId) (plan : List Write) : Option AccountId :=
  (plan.flatMap Write.ends).find? fun id => id ∈ retired

/-- What a failure to put a row means: a foreign key tells which account is missing. -/
def putError (row : DirectedPair) (e : QueryError) : RelationError :=
  match e.foreignKey? with
  | some .owner => .userNotFound row.first
  | some .counterparty | some .unknown => .userNotFound row.second
  | none => .internal (.query .putRow e)

/-- Makes one write. -/
def write : Write → Request Unit
  | .put row status =>
    ExceptT.mk (.ask (.put row status) fun answer => .done (answer.mapError (putError row)))
  | .delete row => request .deleteRow (.delete row)

/-- Locks the rows of a pair and reads them. -/
def lockPair (p : DirectedPair) : Request Snapshot := do
  let rows ← request .lockPair (.lockPair p)
  snapshotOf p rows

/-- Fails if a plan relates a deleted account; a plan that puts nothing is not checked. -/
def checkRetired (p : DirectedPair) (plan : List Write) : Request Unit := do
  if plan.any Write.isPut then
    let retired ← request .checkRetired (.retired p)
    if let some id := retiredEnd? retired plan then throw (.userNotFound id)

/-- Makes the writes of a plan in order. -/
def writeAll : List Write → Request Unit
  | [] => pure ()
  | w :: plan => do write w; writeAll plan

/-- Carries out a planner's answer and commits; the number of writes made. -/
def carryOut (p : DirectedPair) (answer : Except RelationError (List Write)) : Request Nat := do
  let plan ← answer
  checkRetired p plan
  writeAll plan
  request .commit .commit
  pure plan.length

/-- Ends a transaction that failed. -/
def abandon (seen : Option Snapshot) (e : RelationError) : Dialogue Attempt :=
  .ask .rollback fun _ => .done ⟨seen, .error e⟩

/-- Shows a planner the locked rows of a pair and carries out its plan in one transaction. -/
def mutatePair (p : DirectedPair) (planner : Planner) : Dialogue Attempt := do
  match ← (request .start .start).run with
  | .error e => pure ⟨none, .error e⟩
  | .ok _ =>
    match ← (lockPair p).run with
    | .error e => abandon none e
    | .ok seen =>
      match ← (carryOut p (planner seen)).run with
      | .error e => abandon (some seen) e
      | .ok n => pure ⟨some seen, .ok n⟩

/-- The entry that a row of the server stands for. -/
def readFriend (row : FriendRow) : Except RelationError Friend := do
  let status ← readStatus row.status
  pure ⟨row.id, row.username, row.avatar, status, row.since⟩

/-- The entries of a friend list, unless one of them cannot be read. -/
def readFriends (rows : List FriendRow) : Except RelationError (List Friend) :=
  rows.mapM readFriend

/-- The list of an account, in the server's order. -/
def listVisible (owner : AccountId) : Request (List Friend) := do
  let rows ← request .listFriends (.list owner)
  readFriends rows

/-- Whether an account is live. -/
def accountExists (id : AccountId) : Request Bool := do
  match ← request .queryAccount (.count id) with
  | none => throw (.internal (.query .queryAccount .rowNotFound))
  | some n => pure (0 < n)

end Friendship.Database
