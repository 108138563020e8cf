import Friendship.Account.IdText
import Friendship.Json.Decode
import Friendship.Relation.Policy
import Friendship.Relation.Status

/-!
# Decoding ids, statuses and policies

An id is a string in any of its spellings, a status the string of its name, and a policy a
record of booleans whose missing members have their defaults.
-/

namespace Friendship

open Json (Reader Fault)
open Json.Reader

/-- An id of an account. -/
def AccountId.decode : Reader AccountId :=
  string "a formatted UUID string" fun s =>
    (AccountId.read s).mapError fun e => .custom ("UUID parsing failed: " ++ e.message)

def Status.decode : Reader Status :=
  variant ([Status.pending, .accepted, .blocked].map fun status => (status.text, status))

namespace Policy

/-- The members of a policy that are given. -/
structure Given where
  strictAccept : Option Bool := none
  strictUnblock : Option Bool := none
  emptyListIsNotFound : Option Bool := none

/-- The policy with defaults for what is not given. -/
def ofGiven (g : Given) : Policy :=
  let default : Policy := {}
  ⟨g.strictAccept.getD default.strictAccept, g.strictUnblock.getD default.strictUnblock,
    g.emptyListIsNotFound.getD default.emptyListIsNotFound⟩

def shape : Shape Given where
  name := "RelationPolicy"
  members :=
    [.of "strict_accept" Given.strictAccept (fun g b => { g with strictAccept := some b }) boolean
      false,
     .of "strict_unblock" Given.strictUnblock (fun g b => { g with strictUnblock := some b })
      boolean false,
     .of "empty_list_is_not_found" Given.emptyListIsNotFound
      (fun g b => { g with emptyListIsNotFound := some b }) boolean false]
  complete := false

def decode : Reader Policy := do pure (ofGiven (← shape.decode {}))

end Policy
end Friendship
