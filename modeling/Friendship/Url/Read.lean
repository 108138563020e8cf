import Friendship.Url.Host
import Friendship.Url.Path

/-!
# URLs

A URL is a scheme, possibly a host with a port behind two slashes, a path and a query. A name and
a password may stand in front of the host. Some schemes always have a host, which is a domain; the
one of files has none of its own if it is empty or the letter of a drive.
-/

namespace Friendship

/-- What a URL tells besides its host, with percent signs as they are. -/
structure Url where
  userName : List Char := []
  password : List Char := []
  /-- Without the slashes in front. -/
  path : List Char := []
  /-- The names and values of the query. -/
  query : List (String × String) := []

namespace Url

/-- What a scheme says about what follows it. -/
inductive Scheme
  | file
  /-- There is always a host, and backslashes are slashes. -/
  | hosted
  | other
  deriving DecidableEq, Repr

namespace Scheme

def ofName (name : List Char) : Scheme :=
  let lower := String.ofList (name.map Char.toLower)
  if lower = "file" then .file
  else if ["http", "https", "ws", "wss", "ftp"].contains lower then .hosted
  else .other

def isSlash (scheme : Scheme) (c : Char) : Bool := c == '/' || (c == '\\' && scheme != .other)

/-- Whether what stands behind the slashes ends at a character. -/
def isEnd (scheme : Scheme) (c : Char) : Bool := scheme.isSlash c || c == '?' || c == '#'

/-- The scheme in front of the first colon, and what follows. -/
def read? (cs : List Char) : Option (Scheme × List Char) :=
  let isLater (c : Char) := c.isAlphanum || c == '+' || c == '-' || c == '.'
  match cs.head?, cs.span isLater with
  | some c, (name, ':' :: rest) => if c.isAlpha then some (ofName name, rest) else none
  | _, _ => none

end Scheme

/-- A text without the characters that URLs ignore. -/
def cleaned (cs : List Char) : List Char :=
  let isOuter (c : Char) : Bool := c.toNat ≤ 0x20
  let trimmed := ((cs.dropWhile isOuter).reverse.dropWhile isOuter).reverse
  trimmed.filter fun c => c ≠ '\t' && c ≠ '\n' && c ≠ '\r'

/-- Name and password in front of a host. -/
structure User where
  name : List Char := []
  password : List Char := []

namespace User

/-- The user and what follows the last at sign. -/
def read (scheme : Scheme) (cs : List Char) : Except UrlError (User × List Char) :=
  let authority := cs.takeWhile (!scheme.isEnd ·)
  let host := (authority.reverse.takeWhile (· ≠ '@')).reverse
  let rest := host ++ cs.drop authority.length
  let user := authority.take (authority.length - host.length - 1)
  if user.isEmpty && host.length < authority.length && rest.head?.any scheme.isEnd then
    .error .emptyHost
  else
    .ok (⟨user.takeWhile (· ≠ ':'), (user.dropWhile (· ≠ ':')).drop 1⟩, rest)

def isEmpty (user : User) : Bool := user.name.isEmpty && user.password.isEmpty

end User

/-- A host, and what follows it from the first colon outside of brackets on. -/
def splitHost (scheme : Scheme) ( inside : Bool) : List Char → List Char × List Char
  | [] => ([], [])
  | c :: rest =>
    if scheme.isEnd c || (c = ':' && !inside) then ([], c :: rest)
    else
      let (host, behind) := splitHost scheme (c = '[' || (inside && c ≠ ']')) rest
      (c :: host, behind)

/-- Goes behind a port, which begins with a colon and may be empty. Backslashes end it always. -/
def behindPort : List Char → Except UrlError (List Char)
  | ':' :: cs => do
    let digits := cs.takeWhile Char.isDigit
    let rest := cs.drop digits.length
    if 65536 ≤ digits.foldl (fun n c => 10 * n + (c.toNat - 48)) 0 then throw .port
    if rest.head?.any fun c => !Scheme.hosted.isEnd c then throw .port
    pure rest
  | cs => .ok cs

/-- Goes behind a host and its port. -/
def behindHost (scheme : Scheme) (user : User) (cs : List Char) : Except UrlError (List Char) := do
  let (host, rest) := splitHost scheme false cs
  if host.isEmpty then
    if scheme = .hosted ∨ rest.head? = some ':' then throw .emptyHost
    if !user.isEmpty then throw .emptyHost
    pure rest
  else
    if scheme = .hosted then Host.checkDomain host else Host.checkOpaque host
    behindPort rest

/-- Goes behind the host of a file, if it is one. -/
def behindFileHost (cs : List Char) : Except UrlError (List Char) := do
  let host := cs.takeWhile (!Scheme.file.isEnd ·)
  if Path.isDrive host then pure cs
  else
    if !host.isEmpty then Host.checkDomain host
    pure (cs.drop host.length)

/-- What stands in front of the query, or of the fragment. -/
def behindPath (cs : List Char) : List Char := cs.dropWhile fun c => c ≠ '?' && c ≠ '#'

/-- A name or value of the query; bytes that are no characters are replaced. -/
def unescaped (cs : List Char) : String :=
  Text.Utf8.mended (Percent.decoded (cs.map fun c => if c = '+' then ' ' else c))

/-- What stands between the ampersands of a text. -/
def options : List Char → List (List Char)
  | [] => [[]]
  | '&' :: rest => [] :: options rest
  | c :: rest =>
    match options rest with
    | first :: others => (c :: first) :: others
    | [] => [[c]]

/-- The names and values of a query behind a question mark, up to a fragment. -/
def queryOf (cs : List Char) : List (String × String) :=
  match cs with
  | '?' :: text =>
    ((options (text.takeWhile (· ≠ '#'))).filter (!·.isEmpty)).map fun option =>
      (unescaped (option.takeWhile (· ≠ '=')), unescaped ((option.dropWhile (· ≠ '=')).drop 1))
  | _ => []

/-- A URL from its path on. Without a slash in front, a path has no segments. -/
def ofPath (user : User) (path : List Char → List Char) (cs : List Char) : Url where
  userName := user.name
  password := user.password
  path := path (cs.takeWhile fun c => c ≠ '?' && c ≠ '#')
  query := queryOf (behindPath cs)

/-- A URL behind its scheme. -/
def ofRest (scheme : Scheme) (cs : List Char) : Except UrlError Url := do
  let withSegments := Path.read scheme.isSlash
  match scheme, cs with
  | .file, c :: d :: rest =>
    if scheme.isSlash c && scheme.isSlash d then
      pure (ofPath {} withSegments (← behindFileHost rest))
    else pure (ofPath {} withSegments cs)
  | .file, _ => pure (ofPath {} withSegments cs)
  | .hosted, _ =>
    let (user, rest) ← User.read scheme (cs.dropWhile scheme.isSlash)
    pure (ofPath user withSegments (← behindHost scheme user rest))
  | .other, '/' :: '/' :: rest =>
    let (user, rest) ← User.read scheme rest
    pure (ofPath user withSegments (← behindHost scheme user rest))
  | .other, '/' :: _ => pure (ofPath {} withSegments cs)
  | .other, _ => pure (ofPath {} id cs)

def read (s : String) : Except UrlError Url :=
  match Scheme.read? (cleaned s.toList) with
  | none => .error .relative
  | some (scheme, rest) => ofRest scheme rest

end Url
end Friendship
