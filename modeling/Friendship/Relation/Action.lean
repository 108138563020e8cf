import Friendship.Account.Id

/-!
# Actions

The six things an account can do about another one.
-/

namespace Friendship

inductive Action
  | addFriend
  | acceptFriend
  | rejectFriend
  | removeFriend
  | blockFriend
  | unblockFriend
  deriving DecidableEq, Repr, Inhabited

namespace Action

def name : Action → String
  | addFriend => "add_friend"
  | acceptFriend => "accept_friend"
  | rejectFriend => "reject_friend"
  | removeFriend => "remove_friend"
  | blockFriend => "block_friend"
  | unblockFriend => "unblock_friend"

def all : List Action :=
  [addFriend, acceptFriend, rejectFriend, removeFriend, blockFriend, unblockFriend]

def ofName? (s : String) : Option Action := all.find? (·.name == s)

end Action
end Friendship
