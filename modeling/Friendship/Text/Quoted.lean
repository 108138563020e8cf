import Friendship.Text.Number
import Friendship.Text.Printable

/-!
# Quoted texts

A quoted text stands between double quotes. Quotes and backslashes in it are written after a
backslash, some control characters by a letter, and whatever else cannot be seen by the
hexadecimal number of its code point.
-/

namespace Friendship.Text.Quoted

/-- A code point by its number. -/
def codePoint (c : Char) : List Char :=
  '\\' :: 'u' :: '\x7b' :: Nat.toDigits 16 c.toNat ++ ['\x7d']

def encodeChar (c : Char) : List Char :=
  if c = '"' ∨ c = '\\' then ['\\', c]
  else if c = '\n' then ['\\', 'n']
  else if c = '\r' then ['\\', 'r']
  else if c = '\t' then ['\\', 't']
  else if c = '\x00' then ['\\', '0']
  else if Printable.isJoining c ∨ ¬ Printable.isVisible c then codePoint c
  else [c]

def encode (cs : List Char) : List Char := '"' :: cs.flatMap encodeChar ++ ['"']

def ofString (s : String) : String := String.ofList (encode s.toList)

end Friendship.Text.Quoted
