import Friendship.Database.Dialogue

/-!
# Scripted servers

A script fixes what a server answers: the rows of each query, and for each statement which of
its executions fail. The server only counts how often each statement was sent.
-/

namespace Friendship.Database

structure Script where
  lockedRows : List (DirectedPair × String) := []
  retired : List AccountId := []
  friends : List FriendRow := []
  counts : List Int := [0]
  /-- The versions that are left half done. -/
  dirty : List Int := []
  /-- The versions that are done, with their checksums. -/
  applied : List (Int × String) := []
  /-- By label: what the first, second, … execution fails with, if it fails. -/
  failures : List (String × List (Option ServerError)) := []

namespace Script

/-- What a statement is answered with when it succeeds. -/
def rowsFor (script : Script) : (q : Statement) → q.Answer
  | .lockPair _ => script.lockedRows
  | .retired _ => script.retired
  | .list _ => script.friends
  | .count _ => script.counts.head?
  | .upkeep u =>
    match u with
    | .dirty => script.dirty
    | .applied => script.applied
    | .connect | .configure | .databaseName | .getLock | .createMigrations | .insertMigration
    | .migrate | .updateMigration | .releaseLock => ()
  | .start | .commit | .rollback | .put .. | .delete _ => ()

/-- What the next execution of a statement fails with, after those already sent. -/
def failure? (script : Script) (sent : List String) (label : String) : Option ServerError := do
  let failures ← script.failures.lookup label
  (← failures[sent.count label]?)

/-- The server that follows a script; its state are the labels of the statements sent. -/
def server (script : Script) : Server (List String) where
  answer sent q :=
    let answer := match script.failure? sent q.label with
      | some e => .error (.server e)
      | none => .ok (script.rowsFor q)
    (answer, q.label :: sent)

end Script

/-- A server that nobody reaches any more. -/
def closedPool : Server Unit := ⟨fun _ _ => (.error .poolClosed, ())⟩

end Friendship.Database
