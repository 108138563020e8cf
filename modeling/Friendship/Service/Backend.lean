import Friendship.Database.Repository
import Friendship.Store.Listing

/-!
# Backends

The service works on any backend that can change a pair, list an account's friends and tell
whether an account is live. There is one over the store in memory and one over a database server.
-/

namespace Friendship

/-- What the service needs of a store with state `σ`. -/
structure Backend (σ : Type) where
  mutatePair : σ → DirectedPair → Planner → Attempt × σ
  listVisible : σ → AccountId → Except RelationError (List Friend) × σ
  accountExists : σ → AccountId → Except RelationError Bool × σ

namespace Backend

/-- The store in memory at a given time. -/
def memory (now : Instant) : Backend Store where
  mutatePair s p planner := s.mutatePair now p planner
  listVisible s owner := (s.listVisible owner, s)
  accountExists s id := (s.accountExists id, s)

theorem memory_listVisible {s : Store} {owner : AccountId}
    {list : Except RelationError (List Friend)} (h : s.listVisible owner = list) (now : Instant) :
    (memory now).listVisible s owner = (list, s) := congrArg (·, s) h

/-- A database server together with all that was said to it so far. -/
structure Connection (σ : Type) where
  server : σ
  exchanges : List Database.Exchange := []

/-- Holds a dialogue with the server of a connection. -/
def Connection.hold {σ α : Type} (c : Connection σ) (server : Database.Server σ)
    (dialogue : Database.Dialogue α) : α × Connection σ :=
  let t := dialogue.run server c.server
  (t.result, ⟨t.server, c.exchanges ++ t.exchanges⟩)

/-- The statements sent over a connection. -/
def Connection.statements {σ : Type} (c : Connection σ) : List Database.Statement :=
  c.exchanges.map Database.Exchange.statement

/-- The store in the database of a server. -/
def database {σ : Type} (server : Database.Server σ) : Backend (Connection σ) where
  mutatePair c p planner := c.hold server (Database.mutatePair p planner)
  listVisible c owner := c.hold server (Database.listVisible owner).run
  accountExists c id := c.hold server (Database.accountExists id).run

end Backend
end Friendship
