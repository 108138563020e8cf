import Friendship.Json.Document

/-!
# Keys in a token's header

A header may describe a key. The description is not used, but it has to be well formed: a kind of
key with the parameters of that kind, and further members of the right types, none given twice.
-/

namespace Friendship.KeyFormat

open Json (Value)

/-- The name of a variant without content. -/
def variantName? : Value → Option String
  | .string s => some s
  | .object [(s, .null)] => some s
  | _ => none

def isText : Value → Bool
  | .string _ => true
  | _ => false

def isTextList : Value → Bool
  | .list vs => vs.all isText
  | _ => false

/-- The name of a variant without content, for which an empty object may stand too. -/
def looseVariantName? : Value → Option String
  | .object [(s, .object [])] => some s
  | v => variantName? v

/-- What a key is for. -/
def algorithms : List String :=
  ["HS256", "HS384", "HS512", "ES256", "ES384", "RS256", "RS384", "RS512", "PS256", "PS384",
   "PS512", "EdDSA", "RSA1_5", "RSA-OAEP", "RSA-OAEP-256"]

def curves : List String := ["P-256", "P-384", "P-521", "Ed25519"]

/-- The members that any key may have. -/
def common : List (String × (Value → Bool)) :=
  [("use", isText), ("key_ops", isTextList),
   ("alg", fun v => (looseVariantName? v).any (algorithms.contains ·)), ("kid", isText),
   ("x5u", isText), ("x5c", isTextList), ("x5t", isText), ("x5t#S256", isText)]

/-- The members that the keys of each kind need. -/
def kinds : List (List (String × (Value → Bool))) :=
  let kind (name : String) (v : Value) : Bool := variantName? v = some name
  let curve (v : Value) : Bool := (variantName? v).any (curves.contains ·)
  [[("kty", kind "EC"), ("crv", curve), ("x", isText), ("y", isText)],
   [("kty", kind "RSA"), ("n", isText), ("e", isText)],
   [("kty", kind "oct"), ("k", isText)],
   [("kty", kind "OKP"), ("crv", curve), ("x", isText)]]

/-- The values of a name. -/
def valuesOf (name : String) (members : List (String × Value)) : List Value :=
  (members.filter fun m => m.1 == name).map Prod.snd

/-- Whether a description is well formed. -/
def isKey : Value → Bool
  | .object members =>
    (common.all fun (name, ok) =>
      match valuesOf name members with
      | [] => true
      | [.null] => true
      | [v] => ok v
      | _ => false) &&
    kinds.any fun parameters => parameters.all fun (name, ok) =>
      match valuesOf name members with
      | [v] => ok v
      | _ => false
  | _ => false

end Friendship.KeyFormat
