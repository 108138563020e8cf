import Friendship.Relation.Error
import Friendship.Relation.Pair

/-!
# Planners

Whoever changes the rows of a pair is shown them first and answers with the writes to make, or
refuses. What came of it is an attempt: the rows shown, if the planner was asked at all, and the
number of writes made.
-/

namespace Friendship

/-- The writes to make, given the two rows of a pair. -/
abbrev Planner := Snapshot → Except RelationError (List Write)

/-- What came of changing a pair. -/
structure Attempt where
  /-- What the planner was shown; nothing if it was never asked. -/
  seen : Option Snapshot
  /-- The number of writes made. -/
  result : Except RelationError Nat

/-- A planner that gives the same answer whatever it is shown. -/
def Planner.fixed (answer : Except RelationError (List Write)) : Planner := fun _ => answer

end Friendship
