import Friendship.Database.DataSource
import Friendship.Database.Migration
import Friendship.Relation.Error

/-!
# Why a server does not start
-/

namespace Friendship.Server

inductive StartError
  /-- An account to begin with was refused. -/
  | seed (error : RelationError)
  | dataSource (error : Database.DataSourceError)
  /-- Nobody listens at the socket of the database. -/
  | unreachable
  /-- The database cannot encrypt, and must. -/
  | unencrypted
  | connection (error : Database.QueryError)
  | migration (error : Database.MigrationError)
  | unknownStore (name : String)
  | unknownIdentity (name : String)
  | signingKeyMissing
  deriving DecidableEq

/-- The variable that holds the key of signed tokens. -/
def signingKeyVariable : String := "JWT_SIGNING_KEY"

namespace StartError

def noEncryption : String := "server does not support TLS"

def noFile : String := "No such file or directory (os error 2)"

def message : StartError → String
  | seed e => e.message
  | dataSource e => e.message
  | unreachable => "error communicating with database: " ++ noFile
  | unencrypted =>
    "error occurred while attempting to establish a TLS connection: " ++ noEncryption
  | connection e => e.message
  | migration e => e.message
  | unknownStore name => "Unknown store backend: " ++ name
  | unknownIdentity name => "Unknown auth backend: " ++ name
  | signingKeyMissing => signingKeyVariable ++ " must be set for the jwt backend"

/-- What a failure of a statement comes from. -/
def queryCauses : Database.QueryError → List String
  | .server e => [e.text]
  | _ => []

/-- The faults that an error comes from, the nearest first. -/
def causes : StartError → List String
  | dataSource e => e.chain
  | unreachable => [noFile]
  | unencrypted => [noEncryption]
  | connection e => queryCauses e
  | migration e => e.query?.elim [] fun q => q.message :: queryCauses q
  | seed _ | unknownStore _ | unknownIdentity _ | signingKeyMissing => []

end StartError
end Friendship.Server
