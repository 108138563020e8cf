import Friendship.Arithmetic
import Friendship.Database.Collation
import Friendship.Text.Quoted
import Friendship.Url.Read

/-!
# Data sources

Where a database is and how it is reached, told by a URL: a user and a database, and options in the
query. Options that are not known are ignored; of a repeated option the last one counts.
-/

namespace Friendship.Database

/-- What is wrong with the URL of a database. -/
inductive DataSourceError
  | url (error : Url.UrlError)
  /-- The user, the password or the database is no text. -/
  | bytes (fault : Text.Utf8.Fault)
  | encryption (value : String)
  | number (value : String)
  | charset (name : String)
  | collation (name : String)
  deriving DecidableEq, Repr

namespace DataSourceError

/-- Why a text is not a number of the wanted size. -/
def numberText (value : String) : String :=
  let digits := match value.toList with
    | '+' :: rest => rest
    | cs => cs
  if value.isEmpty then "cannot parse integer from empty string"
  else if digits.isEmpty || digits.any (!Text.Number.isDigit ·) then
    "invalid digit found in string"
  else "number too large to fit in target type"

/-- The fault, and behind it the faults that it comes from. -/
def chain : DataSourceError → List String
  | url e => [e.message]
  | bytes fault => [fault.message]
  | encryption value =>
    let reason := "unknown value " ++ Text.Quoted.ofString value ++ " for `ssl_mode`"
    ["error with configuration: " ++ reason, reason]
  | number value => [numberText value]
  | charset name => ["unsupported MySQL charset: " ++ name]
  | collation name => ["unsupported MySQL collation: " ++ name]

def message (e : DataSourceError) : String :=
  "error with configuration: " ++ (e.chain.head?).getD ""

end DataSourceError

/-- How a connection is encrypted. -/
inductive Encryption
  | disabled
  | preferred
  | required
  /-- The authority that vouches for the server is verified. -/
  | verifyAuthority
  /-- The name of the server is verified too. -/
  | verifyIdentity
  deriving DecidableEq, Repr

namespace Encryption

/-- The encryption that a word asks for, in any case. -/
def ofWord? (word : String) : Option Encryption :=
  match word.toLower with
  | "disabled" => some disabled
  | "preferred" => some preferred
  | "required" => some required
  | "verify_ca" => some verifyAuthority
  | "verify_identity" => some verifyIdentity
  | _ => none

/-- Whether there is no connection without encryption. -/
def isNeeded : Encryption → Bool
  | disabled | preferred => false
  | required | verifyAuthority | verifyIdentity => true

end Encryption

/-- What is needed to reach a database. -/
structure DataSource where
  /-- The file of a local socket, in place of the network. -/
  socket : Option String := none
  charset : String := "utf8mb4"
  /-- The collation, unless it is the usual one of the character set. -/
  collation : Option String := none
  encryption : Encryption := .preferred
  deriving DecidableEq, Repr

namespace DataSource

/-- The effect of an option. -/
def apply (source : DataSource) (name value : String) : Except DataSourceError DataSource :=
  if name = "sslmode" ∨ name = "ssl-mode" then
    match Encryption.ofWord? value with
    | some encryption => .ok { source with encryption }
    | none => .error (.encryption value)
  else if name = "statement-cache-capacity" then
    if (Text.Number.unsigned? (2 ^ 64) value.toList).isSome then .ok source
    else .error (.number value)
  else if name = "charset" then .ok { source with charset := value }
  else if name = "collation" then .ok { source with collation := some value }
  else if name = "socket" then .ok { source with socket := some value }
  else .ok source

/-- Checks that a part of a URL is a text. -/
def checkText (cs : List Char) : Except DataSourceError Unit :=
  match Text.Utf8.fault? (Url.Percent.decoded cs) with
  | some fault => .error (.bytes fault)
  | none => .ok ()

/-- The data source of a URL: user, password and database come before the options. -/
def ofUrl (url : Url) : Except DataSourceError DataSource := do
  checkText url.userName
  checkText url.password
  checkText url.path
  url.query.foldlM (fun source (name, value) => source.apply name value) {}

def read (s : String) : Except DataSourceError DataSource :=
  match Url.read s with
  | .error e => .error (.url e)
  | .ok url => ofUrl url

/-- Checks what a connection needs of the options. -/
def check (source : DataSource) : Except DataSourceError Unit :=
  if !charsets.contains source.charset then .error (.charset source.charset)
  else
    match source.collation with
    | none => .ok ()
    | some name => if collations.contains name then .ok () else .error (.collation name)

end DataSource
end Friendship.Database
