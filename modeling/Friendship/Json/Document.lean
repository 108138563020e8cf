import Friendship.Json.Decode
import Friendship.Json.Value

/-!
# Reading any JSON value

Lists and objects may be nested up to a limit. Objects keep all members, also those of one name.
-/

namespace Friendship.Json.Reader

/-- How deep lists and objects may be nested. -/
def depthLimit : Nat := 127

def Number.value : Number → Value
  | .integer n => .integer n
  | .float x => .float x

mutual

/-- The next value, with a number of levels left. -/
def value : Nat → Nat → Reader Value
  | 0, _ => failNext .eofValue
  | fuel + 1, depth => do
    let b ← valueStart
    if isDigit b then pure (← number true).value
    else
      match Char.ofNat b.toNat with
      | 'n' => do skip; word ['u', 'l', 'l']; pure .null
      | 't' => do skip; word ['r', 'u', 'e']; pure (.boolean true)
      | 'f' => do skip; word ['a', 'l', 's', 'e']; pure (.boolean false)
      | '-' => do skip; pure (← number false).value
      | '"' => do skip; pure (.string (← stringText))
      | '[' =>
        if depth = 0 then failNext .recursionLimit
        else do
          skip
          pure (.list (← enclosed (elements fuel (depth - 1) true) endList))
      | '\x7b' =>
        if depth = 0 then failNext .recursionLimit
        else do
          skip
          pure (.object (← enclosed (members fuel (depth - 1) true) endObject))
      | _ => failNext .expectedValue

/-- The rest of the elements of a list. -/
def elements : Nat → Nat → Bool → Reader (List Value)
  | 0, _, _ => failNext .eofList
  | fuel + 1, depth, first => do
    if ← hasElement first then
      let v ← value fuel depth
      let rest ← elements fuel depth false
      pure (v :: rest)
    else pure []

/-- The rest of the members of an object. -/
def members : Nat → Nat → Bool → Reader (List (String × Value))
  | 0, _, _ => failNext .eofObject
  | fuel + 1, depth, first => do
    if ← hasName first then
      skip
      let name ← stringText
      colon
      let v ← value fuel depth
      let rest ← members fuel depth false
      pure ((name, v) :: rest)
    else pure []

end

/-- The next value, which stands in a number of lists and objects. -/
def valueInside (outer : Nat) : Reader Value := do
  value (2 * (← get).rest.length + 2) (depthLimit - outer)

/-- The next value, which stands in no other. -/
def anyValue : Reader Value := valueInside 0

end Friendship.Json.Reader
