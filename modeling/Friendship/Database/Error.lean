/-!
# Failures of the database

A statement fails with an error of the server, or because no connection can be had, or because
the answer cannot be used. The step that failed is told in front of the failure.
-/

namespace Friendship.Database

/-- An error packet of the server: number, state if it sent one, and text. -/
structure ServerError where
  code : UInt16
  state : Option String := none
  message : String
  deriving DecidableEq, Repr, Inhabited

namespace ServerError

def text (e : ServerError) : String :=
  match e.state with
  | some s => s!"{e.code} ({s}): {e.message}"
  | none => s!"{e.code}: {e.message}"

end ServerError

/-- Why a statement gave no answer. -/
inductive QueryError
  | server (error : ServerError)
  | rowNotFound
  | poolTimedOut
  | poolClosed
  | workerCrashed
  | columnNotFound (name : String)
  | protocol (reason : String)
  deriving DecidableEq, Repr

def QueryError.message : QueryError → String
  | server e => "error returned from database: " ++ e.text
  | rowNotFound => "no rows returned by a query that expected to return at least one row"
  | poolTimedOut => "pool timed out while waiting for an open connection"
  | poolClosed => "attempted to acquire a connection on a closed pool"
  | workerCrashed => "attempted to communicate with a crashed background worker"
  | columnNotFound name => "no column found for name: " ++ name
  | protocol reason => "encountered unexpected or invalid data: " ++ reason

/-- The step of the store that a statement belongs to. -/
inductive Step
  | start
  | lockPair
  | checkRetired
  | putRow
  | deleteRow
  | commit
  | listFriends
  | queryAccount
  deriving DecidableEq, Repr

namespace Step

def text : Step → String
  | start => "begin"
  | lockPair => "lock relationship pair"
  | checkRetired => "check retired accounts"
  | putRow => "put relationship row"
  | deleteRow => "delete relationship row"
  | commit => "commit"
  | listFriends => "list friends"
  | queryAccount => "query account"

def all : List Step :=
  [start, lockPair, checkRetired, putRow, deleteRow, commit, listFriends, queryAccount]

/-- The step of a text. -/
def ofText? (s : String) : Option Step := all.find? (·.text == s)

end Step
end Friendship.Database
