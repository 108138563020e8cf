import Friendship.Arithmetic
import Friendship.Json.Skip

/-!
# Decoding values of a known type

A value is decoded as the type says that is wanted. A record is an object with its members in
any order, others being skipped, or a list of its members in their order.
-/

namespace Friendship.Json.Reader

variable {α σ : Type}

/-- The byte that the next value begins with. -/
def valueStart : Reader UInt8 := do
  match ← afterBlanks with
  | none => failNext .eofValue
  | some b => pure b

def Number.found : Number → Found
  | .integer n => .integer n
  | .float x => .float x

/-- What the next value is, read as far as that needs. -/
def found : Reader Found := do
  match ← peek with
  | none => failNext .expectedValue
  | some b =>
    if isDigit b then pure (← number true).found
    else
      match Char.ofNat b.toNat with
      | 'n' => do skip; word ['u', 'l', 'l']; pure .null
      | 't' => do skip; word ['r', 'u', 'e']; pure (.boolean true)
      | 'f' => do skip; word ['a', 'l', 's', 'e']; pure (.boolean false)
      | '-' => do skip; pure (← number false).found
      | '"' => do skip; pure (.string (← stringText))
      | '[' => pure .sequence
      | '\x7b' => pure .map
      | _ => failNext .expectedValue

/-- Fails because the next value is of another type than wanted. -/
def mismatch (expected : String) : Reader α := placed do
  let found ← found
  failValue (.type found expected)

/-- A string that is read further. -/
def string (expected : String) (read : String → Except Fault α) : Reader α := placed do
  if (← valueStart) = ascii '"' then
    skip
    match read (← stringText) with
    | .ok a => pure a
    | .error fault => failValue fault
  else mismatch expected

/-- Null, or a value. -/
def nullable (reader : Reader α) : Reader (Option α) := do
  if (← valueStart) = ascii 'n' then
    skip
    word ['u', 'l', 'l']
    pure none
  else pure (some (← reader))

/-- Any string. -/
def anyString : Reader String := string "a string" .ok

def boolean : Reader Bool := placed do
  let b ← valueStart
  if b = ascii 't' then do skip; word ['r', 'u', 'e']; pure true
  else if b = ascii 'f' then do skip; word ['a', 'l', 's', 'e']; pure false
  else mismatch "a boolean"

/-- The null that stands for a value without content. -/
def unit : Reader Unit := placed do
  if (← valueStart) = ascii 'n' then do skip; word ['u', 'l', 'l']
  else mismatch "unit"

/-- A whole number within bounds. -/
def whole (expected : String) (low high : Int) : Reader Int := placed do
  let b ← valueStart
  if b = ascii '-' || isDigit b then
    if b = ascii '-' then skip
    match ← number (b ≠ ascii '-') with
    | .integer n =>
      if low ≤ n ∧ n ≤ high then pure n else failValue (.value (.integer n) expected)
    | .float x => failValue (.type (.float x) expected)
  else mismatch expected

/-- A whole number that fits a signed word of 64 bits. -/
def int64 : Reader Int := whole "i64" (-2 ^ 63) (2 ^ 63 - 1)

/-- Whether another element comes; a comma has to stand before all but the first. -/
def hasElement (first : Bool) : Reader Bool := do
  match ← afterBlanks with
  | none => failNext .eofList
  | some b =>
    if b = ascii ']' then pure false
    else if first then pure true
    else if b = ascii ',' then
      skip
      match ← afterBlanks with
      | none => failNext .eofValue
      | some b => if b = ascii ']' then failNext .trailingComma else pure true
    else failNext .expectedListCommaOrEnd

/-- Whether another member comes; a comma has to stand before all but the first. -/
def hasName (first : Bool) : Reader Bool := do
  match ← afterBlanks with
  | none => failNext .eofObject
  | some b =>
    if b = ascii '\x7d' then pure false
    else if first then if b = ascii '"' then pure true else failNext .keyNotString
    else if b = ascii ',' then
      skip
      match ← afterBlanks with
      | none => failNext .eofValue
      | some b =>
        if b = ascii '"' then pure true
        else if b = ascii '\x7d' then failNext .trailingComma
        else failNext .keyNotString
    else failNext .expectedObjectCommaOrEnd

/-- The colon after the name of a member. -/
def colon : Reader Unit := do
  match ← afterBlanks with
  | none => failNext .eofObject
  | some b => if b = ascii ':' then skip else failNext .expectedColon

def endList : Reader Unit := do
  match ← afterBlanks with
  | none => failNext .eofList
  | some b =>
    if b = ascii ']' then skip
    else if b = ascii ',' then
      skip
      if (← afterBlanks) = some (ascii ']') then failNext .trailingComma
      else failNext .trailingCharacters
    else failNext .trailingCharacters

def endObject : Reader Unit := do
  match ← afterBlanks with
  | none => failNext .eofObject
  | some b =>
    if b = ascii '\x7d' then skip
    else if b = ascii ',' then failNext .trailingComma
    else failNext .trailingCharacters

/-- The outcome of a reader, whatever it is. -/
def outcome (reader : Reader α) : Reader (Except Error α) :=
  tryCatch (do pure (.ok (← reader))) fun e => pure (.error e)

/-- Reads the inside and then, even if that failed, the end. -/
def enclosed (inside : Reader α) (ending : Reader Unit) : Reader α := do
  let result ← outcome inside
  let ended ← outcome ending
  match result, ended with
  | .ok a, .ok () => pure a
  | .error e, _ => throw e
  | .ok _, .error e => throw e

/-- A variant of an enumeration without content: its name, or an object of its name and null. -/
def variant (known : List (String × α)) : Reader α := do
  let name : Reader α := string "variant identifier" fun s =>
    match known.lookup s with
    | some a => .ok a
    | none => .error (.unknownVariant s (known.map Prod.fst))
  match ← afterBlanks with
  | none => failNext .eofValue
  | some b =>
    if b = ascii '"' then name
    else if b = ascii '\x7b' then
      skip
      let a ← name
      colon
      unit
      match ← afterBlanks with
      | none => failHere .eofObject
      | some b => if b = ascii '\x7d' then skip else failHere .expectedValue
      pure a
    else failNext .expectedValue

/-- A member of a record that is gathered in a state `σ`. -/
structure Member (σ : Type) where
  name : String
  given : σ → Bool
  read : σ → Reader σ
  /-- Whether an object has to have the member. -/
  required : Bool := true

/-- A member that is kept as an optional value. -/
def Member.of (name : String) (get : σ → Option α) (set : σ → α → σ) (read : Reader α)
    (required : Bool := true) : Member σ :=
  ⟨name, fun s => (get s).isSome, fun s => do pure (set s (← read)), required⟩

/-- The form of a record. -/
structure Shape (σ : Type) where
  name : String
  members : List (Member σ)
  /-- Whether a list has to have all members. -/
  complete : Bool := true

namespace Shape

/-- What is wanted in place of a list that is too short. -/
def expected (shape : Shape σ) : String :=
  let count := shape.members.length
  let noun := if count = 1 then " element" else " elements"
  "struct " ++ shape.name ++ s!" with {count}" ++ noun

/-- The members in their order. -/
def elements (shape : Shape σ) : Nat → List (Member σ) → σ → Reader σ
  | _, [], s => pure s
  | i, m :: rest, s => do
    if ← hasElement (i == 0) then
      let s ← m.read s
      shape.elements (i + 1) rest s
    else if shape.complete then failValue (.length i shape.expected)
    else pure s

/-- The members in any order, others being skipped. -/
def entries (shape : Shape σ) : Nat → Bool → σ → Reader σ
  | 0, _, _ => failNext .eofObject
  | fuel + 1, first, s => do
    if ← hasName first then
      skip
      let name ← stringText
      match shape.members.find? fun m => m.name == name with
      | none =>
        colon
        skipValue
        shape.entries fuel false s
      | some m =>
        if m.given s then failValue (.duplicateField name)
        else
          colon
          let s ← m.read s
          shape.entries fuel false s
    else
      match shape.members.find? fun m => m.required && !m.given s with
      | some m => failValue (.missingField m.name)
      | none => pure s

/-- A record, from a state in which no member is given. -/
def decode (shape : Shape σ) (s : σ) : Reader σ := placed do
  let b ← valueStart
  if b = ascii '[' then
    skip
    enclosed (shape.elements 0 shape.members s) endList
  else if b = ascii '\x7b' then
    skip
    let fuel := (← get).rest.length + 1
    enclosed (shape.entries fuel true s) endObject
  else mismatch ("struct " ++ shape.name)

end Shape

/-- Decodes a whole text. -/
def document (reader : Reader α) (bytes : List UInt8) : Except Error α :=
  run (do let a ← reader; finish; pure a) bytes

end Friendship.Json.Reader
