import Friendship.Account.Id
import Friendship.Relation.Status
import Friendship.Time.Instant

/-!
# Friend list entries
-/

namespace Friendship

/-- One entry of an account's friend list. A pending entry is a request that has come in. -/
structure Friend where
  id : AccountId
  username : String
  avatar : Int32
  status : Status
  since : Instant
  deriving DecidableEq

end Friendship
