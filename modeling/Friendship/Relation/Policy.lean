/-!
# Relation policy

Three switches for what the service tolerates.
-/

namespace Friendship

/-- By default accepting nothing and unblocking what is not blocked are tolerated, and an empty
friend list is reported as missing. -/
structure Policy where
  /-- Accepting without a matching request fails. -/
  strictAccept : Bool := false
  /-- Unblocking a pair that is not blocked fails. -/
  strictUnblock : Bool := false
  /-- An empty friend list is reported as not found. -/
  emptyListIsNotFound : Bool := true
  deriving DecidableEq, Repr, Inhabited

end Friendship
