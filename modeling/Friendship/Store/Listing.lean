import Friendship.Relation.Friend
import Friendship.Store.Basic

/-!
# Friend lists

An account's list shows the live accounts that it has an accepted or blocked row to, and those
that have sent it a request. Requests that it sent itself are not shown. The list is in
descending order of the usernames' bytes, entries of one username in ascending order of their
ids.
-/

namespace Friendship

/-- The bytes of a text, in the order that names are compared by. -/
def nameBytes (s : String) : List UInt8 := s.toUTF8.data.toList

/-- The order of list entries: by username downwards, then by id upwards. -/
def Friend.compareListed (x y : Friend) : Ordering :=
  (compare (nameBytes y.username) (nameBytes x.username)).then (compare x.id y.id)

/-- Whether an entry may stand before another one. -/
def Friend.precedes (x y : Friend) : Bool := (x.compareListed y).isLE

/-- Whom a row shows to an account: the other end of an accepted or blocked row of its own, or
the sender of a request to it. -/
def DirectedPair.shownTo? (p : DirectedPair) (owner : AccountId) : Status → Option AccountId
  | .pending => if p.second = owner then some p.first else none
  | .accepted | .blocked => if p.first = owner then some p.second else none

namespace Store

/-- The entry that a row gives in an account's list. -/
def entry? (s : Store) (owner : AccountId) (p : DirectedPair) (row : Row) : Option Friend := do
  let id ← p.shownTo? owner row.status
  let account ← s.accounts.get? id
  if account.deleted then none
  else some ⟨id, account.username, account.avatar, row.status, row.since⟩

/-- The entries of an account's list in the order of their rows. -/
def entries (s : Store) (owner : AccountId) : List Friend :=
  s.rows.toList.filterMap fun (p, row) => s.entry? owner p row

/-- The list of an account; who is not live has an empty one. -/
def listVisible (s : Store) (owner : AccountId) : Except RelationError (List Friend) :=
  if s.poisoned then .error (.internal .poisoned)
  else if s.isLive owner then .ok ((s.entries owner).mergeSort Friend.precedes)
  else .ok []

end Store
end Friendship
