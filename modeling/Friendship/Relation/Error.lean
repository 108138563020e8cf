import Friendship.Account.IdText
import Friendship.Database.Error
import Friendship.Relation.Action
import Friendship.Relation.Status

/-!
# Relation errors

What can go wrong with a relation: something is missing, the relation is in another state than
needed, the request makes no sense, or the store itself failed.
-/

namespace Friendship

/-- What was looked for and not found. -/
inductive Missing
  | user (id : AccountId)
  | friendsOf (id : AccountId)
  | thing (entity field value : String)
  deriving DecidableEq

namespace Missing

def message : Missing → String
  | user id => s!"user with id {id} not found"
  | friendsOf id => s!"friends with id {id} not found"
  | thing entity field value => s!"{entity} with {field} {value} not found"

end Missing

/-- Why a request makes no sense. -/
inductive Misuse
  | selfRelation (action : Action) (id : AccountId)
  | usernameTaken (username : String)
  | other (reason : String)
  deriving DecidableEq

namespace Misuse

def message : Misuse → String
  | selfRelation action id => s!"{action.name}: account {id} cannot be related to itself"
  | usernameTaken username => s!"username {username} already taken"
  | other reason => reason

end Misuse

/-- How the store itself failed. -/
inductive Fault
  | poisoned
  | unknownStatus (text : String)
  | query (step : Database.Step) (error : Database.QueryError)
  | other (reason : String)
  deriving DecidableEq

namespace Fault

def message : Fault → String
  | poisoned => "memory store poisoned: poisoned lock: another task failed inside"
  | unknownStatus text => Status.unknownText text
  | query step error => s!"{step.text}: {error.message}"
  | other reason => reason

end Fault

inductive RelationError
  | notFound (missing : Missing)
  | invalidState (expected : Status) (found : Option Status)
  | invalidArgument (misuse : Misuse)
  | internal (fault : Fault)
  deriving DecidableEq

namespace RelationError

def message : RelationError → String
  | notFound missing => missing.message
  | invalidState expected found =>
    "relationship is " ++ (found.elim "absent" Status.text) ++ ", expected " ++ expected.text
  | invalidArgument misuse => s!"invalid argument: {misuse.message}"
  | internal fault => s!"internal error: {fault.message}"

def userNotFound (id : AccountId) : RelationError := .notFound (.user id)

def friendsNotFound (id : AccountId) : RelationError := .notFound (.friendsOf id)

def isInternal : RelationError → Bool
  | internal _ => true
  | _ => false

end RelationError
end Friendship
