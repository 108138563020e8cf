import Friendship.Database.Dialogue
import Friendship.Database.ForeignKey
import Friendship.Store.Basic

/-!
# Servers that keep tables

An ideal server keeps the tables of accounts and rows and answers each statement by them. What a
transaction writes is seen by its own statements at once and by others from the commit on; a
rollback forgets it. Rows that come without an order may come in any. The friend list of an
account is told as the join that the statement asks for: `IsListing` says which answers are
right, without any way of finding them.
-/

namespace Friendship.Database

/-- A join of the account, the rows it is an end of and their other ends: its own rows that are
accepted or blocked, and the requests sent to it. -/
def friendJoin (s : Store) (owner : AccountId) : List FriendRow :=
  s.accounts.toList.flatMap fun (o, holder) =>
    s.rows.toList.flatMap fun (p, row) =>
      s.accounts.toList.filterMap fun (a, account) =>
        let joined := p.first = o ∨ p.second = o
        let otherEnd := a = if p.first = o then p.second else p.first
        let shown := p.first = o ∧ row.status ≠ .pending ∨ p.second = o ∧ row.status = .pending
        if joined ∧ otherEnd ∧ o = owner ∧ !holder.deleted ∧ !account.deleted ∧ shown then
          some ⟨a, account.username, account.avatar, row.status.text, row.since⟩
        else none

namespace FriendRow

/-- The order of rows: by username downwards, byte by byte, then by id upwards. -/
def order : FriendRow → FriendRow → Ordering :=
  compareLex (fun x y => compareOn (fun row => row.username.toUTF8.data.toList) y x)
    (compareOn FriendRow.id)

instance : Std.TransCmp order :=
  inferInstanceAs (Std.TransCmp (compareLex
    (fun x y => compareOn (fun row : FriendRow => row.username.toUTF8.data.toList) y x)
    (compareOn FriendRow.id)))

/-- Whether one row may come before another. -/
def precedes (x y : FriendRow) : Bool := (order x y).isLE

end FriendRow

/-- Whether rows answer the statement for an account's friend list. -/
def IsListing (s : Store) (owner : AccountId) (rows : List FriendRow) : Prop :=
  rows.Perm (friendJoin s owner) ∧ rows.Pairwise fun x y => x.precedes y

/-- There is an answer to every statement for a friend list. -/
theorem isListing_mergeSort (s : Store) (owner : AccountId) :
    IsListing s owner ((friendJoin s owner).mergeSort FriendRow.precedes) := by
  refine ⟨List.mergeSort_perm _ _, List.pairwise_mergeSort ?_ ?_ _⟩
  · intro x y z hxy hyz
    exact Std.TransCmp.isLE_trans hxy hyz
  · intro x y
    have h : FriendRow.order y x = (FriendRow.order x y).swap := Std.OrientedCmp.eq_swap
    unfold FriendRow.precedes
    rw [h]
    cases FriendRow.order x y <;> rfl

/-- What is left open by the tables: the time, the order of rows, and the words in which a row
without an account is refused. -/
structure Manner where
  now : Instant
  lockedOrder : List (DirectedPair × String) → List (DirectedPair × String)
  lockedOrder_perm : ∀ rows, (lockedOrder rows).Perm rows
  retiredOrder : List AccountId → List AccountId
  retiredOrder_perm : ∀ ids, (retiredOrder ids).Perm ids
  listing : Store → AccountId → List FriendRow
  isListing : ∀ s owner, IsListing s owner (listing s owner)
  refusal : ForeignKey → ServerError
  /-- A refusal names the key that it is about. -/
  foreignKey?_refusal : ∀ key, (QueryError.server (refusal key)).foreignKey? = some key

/-- The tables that everyone sees, and those that the open transaction has made of them. -/
structure Ideal where
  published : Store
  working : Option Store := none

namespace Ideal

/-- What a statement of the open transaction sees. -/
def current (s : Ideal) : Store := s.working.getD s.published

/-- The foreign key that a row goes against: its owner is checked first. An account that is
deleted still has its entry. -/
def violated? (s : Store) (row : DirectedPair) : Option ForeignKey :=
  if (s.accounts.get? row.first).isNone then some .owner
  else if (s.accounts.get? row.second).isNone then some .counterparty
  else none

/-- A pair in both directions; one with itself has one. -/
def directions (p : DirectedPair) : List DirectedPair :=
  if p.isReflexive then [p] else [p, p.reversed]

/-- The rows that there are between the accounts of a pair. -/
def pairRows (s : Store) (p : DirectedPair) : List (DirectedPair × String) :=
  (directions p).filterMap fun q => (s.rows.get? q).map fun row => (q, row.status.text)

/-- The accounts of a pair that are deleted. -/
def retired (s : Store) (p : DirectedPair) : List AccountId :=
  ((directions p).map DirectedPair.first).filter fun id =>
    (s.accounts.get? id).any Account.deleted

/-- Makes a write in the open transaction. -/
def write (manner : Manner) (s : Ideal) (w : Write) : Ideal :=
  { s with working := some (s.current.writeAll manner.now [w]) }

/-- What a statement is answered with, and what it makes of the tables. -/
def answer (manner : Manner) (s : Ideal) : (q : Statement) → Except QueryError q.Answer × Ideal
  | .start => (.ok (), { s with working := some s.published })
  | .commit => (.ok (), ⟨s.current, none⟩)
  | .rollback => (.ok (), ⟨s.published, none⟩)
  | .lockPair p => (.ok (manner.lockedOrder (pairRows s.current p)), s)
  | .retired p => (.ok (manner.retiredOrder (retired s.current p)), s)
  | .put row status =>
    match violated? s.current row with
    | some key => (.error (.server (manner.refusal key)), s)
    | none => (.ok (), s.write manner (.put row status))
  | .delete row => (.ok (), s.write manner (.delete row))
  | .list owner => (.ok (manner.listing s.current owner), s)
  | .count id => (.ok (some (if s.current.isLive id then 1 else 0)), s)
  | .upkeep u =>
    match u with
    | .dirty | .applied => (.ok [], s)
    | .connect | .configure | .databaseName | .getLock | .createMigrations | .insertMigration
    | .migrate | .updateMigration | .releaseLock => (.ok (), s)

/-- The server that answers by its tables. -/
def server (manner : Manner) : Server Ideal := ⟨answer manner⟩

end Ideal

/-- A server of which statements fail before they reach it, told by how many came before. A
rollback never fails. -/
def Server.failing {σ : Type} (server : Server σ) (failure? : Nat → Option QueryError) :
    Server (σ × Nat) where
  answer := fun (s, sent) q =>
    match if q = .rollback then none else failure? sent with
    | some e => (.error e, (s, sent + 1))
    | none =>
      let (answer, s) := server.answer s q
      (answer, (s, sent + 1))

end Friendship.Database
