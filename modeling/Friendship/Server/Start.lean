import Friendship.Server.Error
import Friendship.Server.Running
import Friendship.Settings.Display

/-!
# Starting a server

First the store is opened: a store in memory gets its first accounts, a database is connected to
and, if wanted, brought up to date. Then it is settled how tokens are verified. What was done is
logged, also when a later step fails.
-/

namespace Friendship.Server

/-- What a server finds where it is started. -/
structure Surroundings (σ : Type) where
  /-- The key of signed tokens. -/
  signingKey : Option String := none
  /-- The database server, if one can be reached. -/
  database : Option (Database.Server σ) := none

/-- What has been done so far. -/
structure Progress (σ : Type) where
  connection : Backend.Connection σ
  log : List Log.Event := []

/-- A step that may fail. -/
abbrev Start (σ α : Type) := ExceptT StartError (StateM (Progress σ)) α

variable {σ α : Type}

namespace Start

def tell (level : Log.Level) (message : Option String) (fields : List (String × Log.Value)) :
    Start σ Unit :=
  modify fun p => { p with log := p.log ++ [⟨level, logTarget, message, fields⟩] }

/-- Holds a dialogue with the database. -/
def hold (server : Database.Server σ) (dialogue : Database.Dialogue α) : Start σ α := do
  let p ← get
  let (result, connection) := p.connection.hold server dialogue
  set { p with connection }
  pure result

/-- Goes on unless a step has failed. -/
def orFail {ε : Type} (failure : ε → StartError) (result : Except ε α) : Start σ α :=
  match result with
  | .ok a => pure a
  | .error e => throw (failure e)

/-- Adds accounts to a store, one after another. -/
def seed (store : Store) : List Settings.SeedAccount → Except RelationError Store
  | [] => .ok store
  | a :: rest => do seed (← store.insertAccount a.id a.username a.avatar) rest

/-- A store in memory with its first accounts. -/
def openMemory (settings : Settings.Store) : Start σ (Home σ) := do
  let store ← orFail .seed (seed .empty settings.seedAccounts)
  tell .info (some "memory store ready") [("accounts", .number settings.seedAccounts.length)]
  pure (.memory store)

/-- The server of a data source. Nobody gets a connection out of none, and a server that cannot
be reached over the network is waited for until time is up. No server here encrypts. -/
def reach (around : Surroundings σ) (settings : Settings.Store) : Start σ (Database.Server σ) := do
  let source ← orFail .dataSource (Database.DataSource.read settings.dsn)
  if settings.maxConnections = 0 then throw (.connection .poolTimedOut)
  orFail .dataSource source.check
  match around.database with
  | some server => if source.encryption.isNeeded then throw .unencrypted else pure server
  | none =>
    if source.socket.isSome then throw .unreachable else throw (.connection .poolTimedOut)

/-- Logs in and settles what holds for the connection. -/
def connect (server : Database.Server σ) : Start σ Unit := do
  orFail .connection (← hold server (Database.Dialogue.send (.upkeep .connect)))
  orFail .connection (← hold server (Database.Dialogue.send (.upkeep .configure)))

/-- A connection to the database, whose tables are brought up to date if wanted. -/
def openDatabase (around : Surroundings σ) (settings : Settings.Store) : Start σ (Home σ) := do
  let server ← reach around settings
  connect server
  if settings.runMigrations then
    orFail .migration (← hold server Database.Migration.run.run)
    tell .info (some "migrations applied") []
  pure (.database (← get).connection)

def openStore (around : Surroundings σ) (settings : Settings.Store) : Start σ (Home σ) :=
  if settings.backend = "memory" then openMemory settings
  else if settings.backend = "mysql" then openDatabase around settings
  else throw (.unknownStore settings.backend)

/-- The bytes of a key. -/
def keyBytes (key : String) : List UInt8 := key.toUTF8.data.toList

def identity (around : Surroundings σ) (settings : Settings.Auth) : Start σ Identity := do
  if settings.backend = "fake" then
    tell .warn (some "fake identity backend accepts unsigned tokens") []
    pure .plain
  else if settings.backend = "jwt" then
    match around.signingKey with
    | some key => pure (.signed ⟨settings.issuer, settings.audience, keyBytes key⟩)
    | none => throw .signingKeyMissing
  else throw (.unknownIdentity settings.backend)

def server (around : Surroundings σ) (settings : Settings) : Start σ (Running σ) := do
  let home ← openStore around settings.store
  let identity ← identity around settings.auth
  tell .debug none [("policy", .shown settings.social.shown)]
  tell .info (some "server started")
    [("store", .shown settings.store.backend), ("auth", .shown settings.auth.backend)]
  pure ⟨home, identity, settings.social⟩

end Start

/-- What came of starting a server. -/
structure Started (σ : Type) where
  result : Except StartError (Running σ)
  log : List Log.Event
  /-- What was said to the database. -/
  connection : Backend.Connection σ

/-- Starts a server whose database, if any, is in a given state. -/
def start (around : Surroundings σ) (state : σ) (settings : Settings) : Started σ :=
  let (result, progress) := (Start.server around settings).run.run ⟨⟨state, []⟩, []⟩
  ⟨result, progress.log, progress.connection⟩

end Friendship.Server
