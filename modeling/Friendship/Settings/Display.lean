import Friendship.Account.IdText
import Friendship.Settings.Basic
import Friendship.Text.Shown

/-!
# Settings as texts

Settings are shown in full, records with their names and fields.
-/

namespace Friendship

open Text.Shown

def Policy.shown (p : Policy) : String :=
  record "RelationPolicy"
    [("strict_accept", boolean p.strictAccept), ("strict_unblock", boolean p.strictUnblock),
      ("empty_list_is_not_found", boolean p.emptyListIsNotFound)]

namespace Settings

def Auth.shown (s : Auth) : String :=
  record "Auth" [("backend", string s.backend), ("issuer", string s.issuer),
    ("audience", string s.audience)]

def Http.shown (s : Http) : String :=
  record "Http" [("address", string s.address), ("cert_path", option (s.certPath.map string)),
    ("key_path", option (s.keyPath.map string))]

def Log.shown (s : Log) : String := record "Log" [("filter", string s.filter)]

def SeedAccount.shown (a : SeedAccount) : String :=
  record "SeedAccount" [("user_id", "UserId(" ++ a.id.text ++ ")"),
    ("username", string a.username), ("avatar_id", toString a.avatar)]

def Store.shown (s : Store) : String :=
  record "Store" [("backend", string s.backend), ("dsn", string s.dsn),
    ("max_connections", toString s.maxConnections), ("run_migrations", boolean s.runMigrations),
    ("seed_accounts", list (s.seedAccounts.map SeedAccount.shown))]

def shown (s : Settings) : String :=
  record "Settings" [("auth", s.auth.shown), ("http", s.http.shown), ("log", s.log.shown),
    ("store", s.store.shown), ("social", s.social.shown)]

end Settings
end Friendship
