import Friendship.Account.Id
import Friendship.Relation.Policy

/-!
# Settings

What a server needs to know: how tokens are verified, where it listens, what it logs, where its
store is, and how tolerant it is.
-/

namespace Friendship

namespace Settings

structure Auth where
  /-- How tokens are verified: `fake` or `jwt`. -/
  backend : String
  issuer : String := ""
  audience : String := ""
  deriving DecidableEq, Repr

structure Http where
  address : String
  certPath : Option String := none
  keyPath : Option String := none
  deriving DecidableEq, Repr

structure Log where
  filter : String
  deriving DecidableEq, Repr

/-- An account that a store in memory begins with. -/
structure SeedAccount where
  id : AccountId
  username : String
  avatar : Int32 := 0
  deriving DecidableEq

structure Store where
  /-- Where the store is: `memory` or `mysql`. -/
  backend : String
  dsn : String := ""
  maxConnections : UInt32 := 10
  runMigrations : Bool := false
  seedAccounts : List SeedAccount := []
  deriving DecidableEq

end Settings

structure Settings where
  auth : Settings.Auth
  http : Settings.Http
  log : Settings.Log
  store : Settings.Store
  social : Policy := {}
  deriving DecidableEq

end Friendship
