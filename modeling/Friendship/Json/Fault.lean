import Friendship.Decimal.Shortest
import Friendship.Text.Quoted

/-!
# What is wrong with a JSON text

A text may break the grammar, or hold a value of another type or shape than wanted. The place of
a fault is a line and a column, both counted in bytes; the column is the number of bytes of the
line that were looked at.
-/

namespace Friendship.Json

open Decimal (Binary64)

/-- A value that was found in place of the wanted one. -/
inductive Found
  | null
  | boolean (b : Bool)
  | integer (n : Int)
  | float (x : Binary64)
  | string (s : String)
  | sequence
  | map
  deriving DecidableEq

def Found.text : Found → String
  | null => "null"
  | boolean b => "boolean `" ++ (if b then "true" else "false") ++ "`"
  | integer n => "integer `" ++ String.ofList (Text.Number.intChars n) ++ "`"
  | float x => "floating point `" ++ Decimal.FloatFormat.compact.text x ++ "`"
  | string s => "string " ++ Text.Quoted.ofString s
  | sequence => "sequence"
  | map => "map"

inductive Fault
  | eofList
  | eofObject
  | eofString
  | eofValue
  | expectedColon
  | expectedListCommaOrEnd
  | expectedObjectCommaOrEnd
  | expectedIdent
  | expectedValue
  | invalidEscape
  | invalidNumber
  | numberOutOfRange
  | invalidCodePoint
  | controlCharacter
  | keyNotString
  | loneSurrogate
  | trailingComma
  | trailingCharacters
  | unexpectedEndOfHexEscape
  | recursionLimit
  /-- A value of another type than wanted. -/
  | type (found : Found) (expected : String)
  /-- A value of the right type that does not fit. -/
  | value (found : Found) (expected : String)
  /-- A list with too few elements. -/
  | length (found : Nat) (expected : String)
  | unknownVariant (found : String) (known : List String)
  | missingField (name : String)
  | duplicateField (name : String)
  /-- A fault that the value itself tells. -/
  | custom (reason : String)
  deriving DecidableEq

/-- The known variants, told as a choice. -/
def choice : List String → String
  | [] => "there are no variants"
  | [a] => "expected `" ++ a ++ "`"
  | [a, b] => "expected `" ++ a ++ "` or `" ++ b ++ "`"
  | known => "expected one of " ++ ", ".intercalate (known.map fun a => "`" ++ a ++ "`")

def Fault.message : Fault → String
  | eofList => "EOF while parsing a list"
  | eofObject => "EOF while parsing an object"
  | eofString => "EOF while parsing a string"
  | eofValue => "EOF while parsing a value"
  | expectedColon => "expected `:`"
  | expectedListCommaOrEnd => "expected `,` or `]`"
  | expectedObjectCommaOrEnd => "expected `,` or `\x7d`"
  | expectedIdent => "expected ident"
  | expectedValue => "expected value"
  | invalidEscape => "invalid escape"
  | invalidNumber => "invalid number"
  | numberOutOfRange => "number out of range"
  | invalidCodePoint => "invalid unicode code point"
  | controlCharacter => "control character (\\u0000-\\u001F) found while parsing a string"
  | keyNotString => "key must be a string"
  | loneSurrogate => "lone leading surrogate in hex escape"
  | trailingComma => "trailing comma"
  | trailingCharacters => "trailing characters"
  | unexpectedEndOfHexEscape => "unexpected end of hex escape"
  | recursionLimit => "recursion limit exceeded"
  | type found expected => "invalid type: " ++ found.text ++ ", expected " ++ expected
  | value found expected => "invalid value: " ++ found.text ++ ", expected " ++ expected
  | length found expected => s!"invalid length {found}, expected {expected}"
  | unknownVariant found known => "unknown variant `" ++ found ++ "`, " ++ choice known
  | missingField name => "missing field `" ++ name ++ "`"
  | duplicateField name => "duplicate field `" ++ name ++ "`"
  | custom reason => reason

/-- A place in a text. -/
structure Position where
  line : Nat
  column : Nat
  deriving DecidableEq, Repr

/-- A fault and its place, which is not yet known while the fault is only one of the value. -/
structure Error where
  fault : Fault
  position : Option Position := none
  deriving DecidableEq

/-- The fault and, where it is known, the place. -/
def Error.message (e : Error) : String :=
  match e.position with
  | none => e.fault.message
  | some p => s!"{e.fault.message} at line {p.line} column {p.column}"

end Friendship.Json
