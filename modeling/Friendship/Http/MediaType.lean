/-!
# Media types

A media type is a type and a subtype joined by a slash, in either case, and parameters after
semicolons. The subtype ends before the last plus sign. A parameter is a name and a value joined
by an equals sign; the value may stand in quotes.
-/

namespace Friendship.Http

/-- Type and subtype in lower case. -/
structure MediaType where
  type : List Char
  subtype : List Char
  deriving DecidableEq, Repr

namespace MediaType

/-- Whether a character may stand in a type, a name or a plain value. -/
def isToken (c : Char) : Bool :=
  ('0' ≤ c && c ≤ '9') || ('A' ≤ c && c ≤ 'Z') || ('a' ≤ c && c ≤ 'z') ||
    c ∈ ['!', '#', '$', '%', '&', '\'', '*', '+', '-', '.', '^', '_', '\u0060', '|', '~']

/-- Whether a character may stand between quotes. -/
def isQuotable (c : Char) : Bool := 31 < c.toNat && c.toNat ≠ 127 && c ≠ '"'

/-- The rest after a value in quotes, of which at least one character is needed. -/
def afterQuoted? (cs : List Char) : Option (List Char) :=
  match cs with
  | '"' :: rest =>
    -- a quote that comes first stands for itself
    match (rest.dropWhile isQuotable) with
    | '"' :: rest => some (rest.dropWhile (· = ' '))
    | _ => none
  | _ =>
    match cs.dropWhile isQuotable with
    | '"' :: rest => some (rest.dropWhile (· = ' '))
    | _ => none

/-- Whether the rest of a media type is made of parameters. -/
def hasParameters : Nat → List Char → Bool
  | 0, _ => false
  | _, [] => true
  | fuel + 1, ' ' :: rest => hasParameters fuel rest
  | fuel + 1, cs =>
    match cs.takeWhile isToken, cs.dropWhile isToken with
    | [], _ => false
    | _, '=' :: '"' :: rest =>
      match afterQuoted? rest with
      | some [] => true
      | some (';' :: rest) => hasParameters fuel rest
      | _ => false
    | _, '=' :: rest =>
      match rest.takeWhile isToken, rest.dropWhile isToken with
      | _, [] => true
      | _ :: _, ';' :: rest => hasParameters fuel rest
      | _, _ => false
    | _, _ => false

/-- What stands before the last plus sign, unless that comes first. -/
def beforePlus (subtype : List Char) : List Char :=
  match (subtype.drop 1).reverse.dropWhile (· ≠ '+') with
  | [] => subtype
  | _ :: kept => subtype.take 1 ++ kept.reverse

/-- Reads a media type. -/
def read? (cs : List Char) : Option MediaType :=
  match cs.takeWhile isToken, cs.dropWhile isToken with
  | type@(_ :: _), '/' :: rest =>
    let subtype := rest.takeWhile isToken
    let after := rest.dropWhile isToken
    let isWhole := match after with
      | [] => true
      | ';' :: parameters =>
        !subtype.isEmpty && hasParameters (parameters.length + 1) parameters
      | _ => false
    if isWhole then some ⟨type.map Char.toLower, (beforePlus subtype).map Char.toLower⟩
    else none
  | _, _ => none

/-- Whether a text names JSON. -/
def isJson (s : String) : Bool :=
  read? s.toList = some ⟨"application".toList, "json".toList⟩

end MediaType
end Friendship.Http
