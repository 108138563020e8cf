import Friendship.Database.Dialogue

/-!
# Bringing the tables up to date

There is one migration. It is applied under a lock, in a transaction, unless it was applied
before. Migrations that were left half done, that are not known, or that were changed since they
were applied have to be set right by hand.
-/

namespace Friendship.Database

inductive MigrationError
  /-- A statement around a migration failed. -/
  | upkeep (error : QueryError)
  /-- The migration itself failed. -/
  | migration (version : Int) (error : QueryError)
  | halfDone (version : Int)
  | unknown (version : Int)
  | changed (version : Int)
  deriving DecidableEq, Repr

namespace MigrationError

def message : MigrationError → String
  | upkeep e => "while executing migrations: " ++ e.message
  | migration v e => s!"while executing migration {v}: " ++ e.message
  | halfDone v =>
    s!"migration {v} is partially applied; fix and remove row from `_sqlx_migrations` table"
  | unknown v =>
    s!"migration {v} was previously applied but is missing in the resolved migrations"
  | changed v => s!"migration {v} was previously applied but has been modified"

/-- The failure of a statement that an error comes from. -/
def query? : MigrationError → Option QueryError
  | upkeep e | migration _ e => some e
  | halfDone _ | unknown _ | changed _ => none

end MigrationError

namespace Migration

/-- A dialogue that may end with an error. -/
abbrev Run (α : Type) := ExceptT MigrationError Dialogue α

/-- The migration that makes the tables of accounts and relations. -/
def version : Int := 20261016000000

/-- The digest of that migration. -/
def checksum : String :=
  "46ef07fc293e5afd0905b0904fc64b16dcf26b71ce33593171425a188399f5c942a449013bd0058ecea027dce41d14fe"

/-- Sends a statement; a failure is told in a given way. -/
def sendOr (failure : QueryError → MigrationError) (q : Statement) : Run q.Answer :=
  ExceptT.mk (.ask q fun answer => .done (answer.mapError failure))

/-- Sends a statement around a migration. -/
def send (q : Statement) : Run q.Answer := sendOr .upkeep q

/-- Applies the migration. -/
def apply : Run Unit := do
  send .start
  send (.upkeep .insertMigration)
  sendOr (.migration version) (.upkeep .migrate)
  send (.upkeep .updateMigration)
  send .commit
  send (.upkeep .updateMigration)

/-- Fails if a version that was applied is not known. -/
def checkKnown (applied : List (Int × String)) : Run Unit :=
  match applied.find? (·.1 ≠ version) with
  | some (v, _) => throw (.unknown v)
  | none => pure ()

/-- Applies the migration unless it was applied as it is now. -/
def applyOnce (applied : List (Int × String)) : Run Unit :=
  match applied.reverse.lookup version with
  | none => apply
  | some digest => if digest = checksum then pure () else throw (.changed version)

def run : Run Unit := do
  send (.upkeep .databaseName)
  send (.upkeep .getLock)
  send (.upkeep .createMigrations)
  match ← send (.upkeep .dirty) with
  | (v : Int) :: _ => throw (.halfDone v)
  | [] => pure ()
  let applied ← send (.upkeep .applied)
  checkKnown applied
  applyOnce applied
  send (.upkeep .databaseName)
  send (.upkeep .releaseLock)

end Migration
end Friendship.Database
