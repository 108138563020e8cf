import Friendship.Settings.Basic
import Friendship.Settings.Fields

/-!
# Settings from raw settings

Each section is read by its fields. All sections but the relation policy have to be there.
-/

namespace Friendship.Settings

variable (file : String)

def Auth.decode : Decoder Auth := fun value => do
  let fields ← Fields.of "Auth" ["backend", "issuer", "audience"] value
  let backend ← fields.required "backend" (Decoder.string file)
  let issuer ← fields.defaulted "issuer" "" (Decoder.string file)
  let audience ← fields.defaulted "audience" "" (Decoder.string file)
  pure { backend, issuer, audience }

def Http.decode : Decoder Http := fun value => do
  let fields ← Fields.of "Http" ["address", "cert_path", "key_path"] value
  let address ← fields.required "address" (Decoder.string file)
  let certPath ← fields.optional "cert_path" (Decoder.string file)
  let keyPath ← fields.optional "key_path" (Decoder.string file)
  pure { address, certPath, keyPath }

def Log.decode : Decoder Log := fun value => do
  let fields ← Fields.of "Log" ["filter"] value
  let filter ← fields.required "filter" (Decoder.string file)
  pure { filter }

def SeedAccount.decode : Decoder SeedAccount := fun value => do
  let fields ← Fields.of "SeedAccount" ["user_id", "username", "avatar_id"] value
  let id ← fields.required "user_id" (Decoder.id file)
  let username ← fields.required "username" (Decoder.string file)
  let avatar ← fields.defaulted "avatar_id" 0 (Decoder.int32 file)
  pure { id, username, avatar }

def Store.decode : Decoder Store := fun value => do
  let fields ← Fields.of "Store"
    ["backend", "dsn", "max_connections", "run_migrations", "seed_accounts"] value
  let backend ← fields.required "backend" (Decoder.string file)
  let dsn ← fields.defaulted "dsn" "" (Decoder.string file)
  let maxConnections ← fields.defaulted "max_connections" 10 (Decoder.uint32 file)
  let runMigrations ← fields.defaulted "run_migrations" false (Decoder.boolean file)
  let seedAccounts ← fields.defaulted "seed_accounts" []
    (Decoder.list (SeedAccount.decode file))
  pure { backend, dsn, maxConnections, runMigrations, seedAccounts }

/-- A relation policy; what is not given has its default. -/
def decodePolicy : Decoder Policy := fun value => do
  let fields ← Fields.of "RelationPolicy"
    ["strict_accept", "strict_unblock", "empty_list_is_not_found"] value
  let default : Policy := {}
  let strictAccept ←
    fields.defaulted "strict_accept" default.strictAccept (Decoder.boolean file)
  let strictUnblock ←
    fields.defaulted "strict_unblock" default.strictUnblock (Decoder.boolean file)
  let emptyListIsNotFound ←
    fields.defaulted "empty_list_is_not_found" default.emptyListIsNotFound (Decoder.boolean file)
  pure { strictAccept, strictUnblock, emptyListIsNotFound }

def decode : Decoder Settings := fun value => do
  let fields ← Fields.of "Settings" ["auth", "http", "log", "store", "social"] value
  let auth ← fields.required "auth" (Auth.decode file)
  let http ← fields.required "http" (Http.decode file)
  let log ← fields.required "log" (Log.decode file)
  let store ← fields.required "store" (Store.decode file)
  let social ← fields.defaulted "social" {} (decodePolicy file)
  pure { auth, http, log, store, social }

end Friendship.Settings
