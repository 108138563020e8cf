import Friendship.Account.IdText
import Friendship.Database.Error
import Friendship.Relation.Pair
import Friendship.Time.Instant

/-!
# Statements

What is sent to the database server, and what it may answer. Each statement has a label and
parameters; the answer's type depends on the statement.
-/

namespace Friendship.Database

/-- Statements that keep the tables up to date. -/
inductive Upkeep
  /-- The login of a new connection. -/
  | connect
  /-- The settings of a new connection. -/
  | configure
  | databaseName
  | getLock
  | createMigrations
  | dirty
  | applied
  | insertMigration
  | migrate
  | updateMigration
  | releaseLock
  deriving DecidableEq, Repr

/-- A row of a friend list as the server sends it. -/
structure FriendRow where
  id : AccountId
  username : String
  avatar : Int32
  status : String
  since : Instant
  deriving DecidableEq

inductive Statement
  | start
  | commit
  | rollback
  /-- The rows of a pair in both directions, locked. -/
  | lockPair (pair : DirectedPair)
  /-- Which of the two accounts are deleted. -/
  | retired (pair : DirectedPair)
  | put (row : DirectedPair) (status : Status)
  | delete (row : DirectedPair)
  /-- The friend list of an account. -/
  | list (owner : AccountId)
  /-- How many live accounts have an id. -/
  | count (id : AccountId)
  | upkeep (statement : Upkeep)
  deriving DecidableEq

namespace Upkeep

def label : Upkeep → String
  | connect => "CONNECT"
  | configure => "SET"
  | databaseName => "DATABASE"
  | getLock => "GET_LOCK"
  | createMigrations => "CREATE_MIGRATIONS"
  | dirty => "DIRTY"
  | applied => "APPLIED"
  | insertMigration => "INSERT_MIGRATION"
  | migrate => "MIGRATION"
  | updateMigration => "UPDATE_MIGRATION"
  | releaseLock => "RELEASE_LOCK"

/-- The versions left half done, or the versions done with their checksums in hexadecimal. -/
def Answer : Upkeep → Type
  | dirty => List Int
  | applied => List (Int × String)
  | connect | configure | databaseName | getLock | createMigrations | insertMigration | migrate
  | updateMigration | releaseLock => Unit

end Upkeep

namespace Statement

def label : Statement → String
  | start => "BEGIN"
  | commit => "COMMIT"
  | rollback => "ROLLBACK"
  | lockPair _ => "LOCK_PAIR"
  | retired _ => "RETIRED"
  | put .. => "PUT"
  | delete _ => "DELETE"
  | list _ => "LIST"
  | count _ => "COUNT"
  | upkeep u => u.label

/-- The parameters in the order in which they are bound. -/
def parameters : Statement → List String
  | lockPair p => [p.first, p.second, p.second, p.first].map AccountId.text
  | retired p => [p.first, p.second].map AccountId.text
  | put p status => [p.first, p.second].map AccountId.text ++ [status.text, status.text]
  | delete p => [p.first, p.second].map AccountId.text
  | list id | count id => [id.text]
  | start | commit | rollback | upkeep _ => []

/-- The label and the parameters on one line. -/
def text (q : Statement) : String := " ".intercalate (q.label :: q.parameters)

/-- Whether a statement belongs to the login of a connection. -/
def isLogin : Statement → Bool
  | upkeep .connect | upkeep .configure => true
  | _ => false

/-- What the server answers to a statement that succeeds. -/
def Answer : Statement → Type
  | lockPair _ => List (DirectedPair × String)
  | retired _ => List AccountId
  | list _ => List FriendRow
  | count _ => Option Int
  | upkeep u => u.Answer
  | start | commit | rollback | put .. | delete _ => Unit

/-- The statement that carries out a write. -/
def ofWrite : Write → Statement
  | .put p status => put p status
  | .delete p => delete p

end Statement
end Friendship.Database
