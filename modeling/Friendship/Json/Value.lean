import Friendship.Decimal.Shortest
import Friendship.Text.Hex
import Friendship.Text.Number

/-!
# JSON values and their compact text

Objects keep their members in the order given. The compact text has no blanks; in strings,
quotes, backslashes and control characters are escaped, and nothing else.
-/

namespace Friendship.Json

inductive Value
  | null
  | boolean (b : Bool)
  | integer (n : Int)
  | float (x : Decimal.Binary64)
  | string (s : String)
  | list (elements : List Value)
  | object (members : List (String × Value))

/-- A control character without a letter of its own is written by its number. -/
def escapeChar (c : Char) : List Char :=
  if c = '"' ∨ c = '\\' then ['\\', c]
  else if c = '\x08' then ['\\', 'b']
  else if c = '\x0c' then ['\\', 'f']
  else if c = '\n' then ['\\', 'n']
  else if c = '\r' then ['\\', 'r']
  else if c = '\t' then ['\\', 't']
  else if c.toNat < 0x20 then
    ['\\', 'u', '0', '0', Text.Hex.digit (c.toNat / 16), Text.Hex.digit (c.toNat % 16)]
  else [c]

def quotedChars (s : String) : List Char := '"' :: s.toList.flatMap escapeChar ++ ['"']

namespace Value

mutual

/-- The compact text of a value. -/
def chars : Value → List Char
  | null => ['n', 'u', 'l', 'l']
  | boolean true => ['t', 'r', 'u', 'e']
  | boolean false => ['f', 'a', 'l', 's', 'e']
  | integer n => Text.Number.intChars n
  | float x => Decimal.FloatFormat.compact.chars x
  | string s => quotedChars s
  | list elements => '[' :: elementsChars elements ++ [']']
  | object members => '\x7b' :: membersChars members ++ ['\x7d']

/-- Elements with commas between them. -/
def elementsChars : List Value → List Char
  | [] => []
  | [v] => v.chars
  | v :: rest => v.chars ++ ',' :: elementsChars rest

/-- Members with commas between them. -/
def membersChars : List (String × Value) → List Char
  | [] => []
  | [(name, v)] => quotedChars name ++ ':' :: v.chars
  | (name, v) :: rest => quotedChars name ++ ':' :: (v.chars ++ ',' :: membersChars rest)

end

def text (v : Value) : String := String.ofList v.chars

end Value
end Friendship.Json
