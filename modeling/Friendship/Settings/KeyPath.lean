import Friendship.Arithmetic
import Friendship.Text.Number

/-!
# Names that are paths

The name of a setting at the top of a file may lead to a setting inside another one: it begins
with an identifier, and goes on with identifiers behind dots and with indices in brackets. A
negative index counts from the end of a list. A name of any other form is just a name.
-/

namespace Friendship.Settings

/-- One step from a setting to one inside it. -/
inductive Step
  | member (name : String)
  | element (index : Int)
  deriving DecidableEq, Repr

namespace KeyPath

open Text.Number (isDigit nat?)

/-- Characters of identifiers. -/
def isIdentifierChar (c : Char) : Bool := c.isAlphanum || c == '_' || c == '-'

def isBlank (c : Char) : Bool := c == ' ' || c == '\t'

/-- The member that an identifier means, and what follows it. -/
def member? (cs : List Char) : Option (Step × List Char) :=
  match cs.takeWhile isIdentifierChar with
  | [] => none
  | name => some (.member (String.ofList name), cs.dropWhile isIdentifierChar)

/-- A sign, positive if there is none, and the rest. -/
def sign : List Char → Bool × List Char
  | '-' :: rest => (true, rest)
  | cs => (false, cs)

/-- A number of 64 bits with a sign. -/
def bounded? (negative : Bool) (n : Nat) : Option Int :=
  if negative then (if n ≤ 2 ^ 63 then some (-(n : Int)) else none)
  else if n < 2 ^ 63 then some n else none

/-- The element that an index with its closing bracket means, and what follows it. There may be
blanks around the index. -/
def element? (cs : List Char) : Option (Step × List Char) := do
  let (negative, cs) := sign (cs.dropWhile isBlank)
  let index ← bounded? negative (← nat? (cs.takeWhile isDigit))
  match (cs.dropWhile isDigit).dropWhile isBlank with
  | ']' :: rest => some (.element index, rest)
  | _ => none

/-- The step that a dot or a bracket begins, and what follows it. -/
def step? : List Char → Option (Step × List Char)
  | '.' :: rest => member? rest
  | '[' :: rest => element? rest
  | _ => none

/-- The steps that make up a whole text, at most as many as there is fuel. -/
def steps? : Nat → List Char → Option (List Step)
  | _, [] => some []
  | 0, _ => none
  | fuel + 1, cs => do
    let (step, rest) ← step? cs
    let more ← steps? fuel rest
    pure (step :: more)

/-- Where a name at the top leads. -/
def ofName (name : String) : List Step :=
  let steps := do
    let (first, rest) ← member? name.toList
    let more ← steps? rest.length rest
    pure (first :: more)
  steps.getD [.member name]

end KeyPath
end Friendship.Settings
