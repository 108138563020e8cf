import Friendship.Account.IdText
import Friendship.Settings.Raw
import Friendship.Text.Quoted

/-!
# What is wrong with settings

A value may be missing, be of a type that cannot be converted, or not have the shape or text that
is wanted. A fault is told with the place of the value, and, where a conversion failed, with the
file that the value comes from.
-/

namespace Friendship.Settings

/-- One step to a value inside another. -/
inductive Segment
  | member (name : String)
  | element (index : Nat)
  deriving DecidableEq, Repr

/-- Steps to a value: members after a dot, unless an element follows; elements in brackets. -/
def pathText : List Segment → String
  | [] => ""
  | [.member name] => name
  | .member name :: .element i :: rest => name ++ pathText (.element i :: rest)
  | .member name :: rest => name ++ "." ++ pathText rest
  | .element i :: rest => s!"[{i}]" ++ pathText rest

/-- A value that cannot be converted. -/
inductive Unconverted
  | unit
  | string (s : String)
  | list
  | table
  | signed (n : Int)
  | unsigned (n : Nat)
  deriving DecidableEq, Repr

def Unconverted.text : Unconverted → String
  | unit => "unit value"
  | string s => "string " ++ Text.Quoted.ofString s
  | list => "sequence"
  | table => "map"
  | signed n => s!"64-bit integer `{n}`"
  | unsigned n => s!"64-bit unsigned integer `{n}`"

/-- What is wanted of a structure or a list. -/
inductive Shape
  /-- A structure with a number of fields. -/
  | record (name : String) (fields : Nat)
  | list
  deriving DecidableEq, Repr

def Shape.text : Shape → String
  | record name _ => "struct " ++ name
  | list => "a sequence"

/-- How floating point numbers are told that stand where they must not. -/
def misplacedFloat : Decimal.FloatFormat := ⟨".0", none, "inf.0", "NaN.0", .up⟩

/-- A value that stands where a structure or list is wanted. -/
def misplacedText : Raw → String
  | .unit _ => "unit value"
  | .boolean b => s!"boolean `{b}`"
  | .integer n => s!"integer `{n}`"
  | .float x => "floating point `" ++ misplacedFloat.text x ++ "`"
  | .string s => "string " ++ Text.Quoted.ofString s
  | .list .. => "sequence"
  | .table .. => "map"

inductive Fault
  | missing
  /-- A value that cannot be converted, and the file if it belongs to one. -/
  | type (found : Unconverted) (expected : String) (file : Option String)
  | shape (found : Raw) (expected : Shape)
  /-- A list in place of a structure, with too few elements. -/
  | length (found : Nat) (expected : Shape)
  | id (error : IdTextError)

/-- A fault and its place. -/
structure ValueError where
  fault : Fault
  path : List Segment := []

def Shape.lengthText : Shape → String
  | record name 1 => s!"struct {name} with 1 element"
  | record name n => s!"struct {name} with {n} elements"
  | list => "a sequence"

def ValueError.message (e : ValueError) : String :=
  let path := pathText e.path
  let place := s!" for key `{path}`"
  match e.fault with
  | .missing => "missing configuration field " ++ Text.Quoted.ofString path
  | .type found expected file =>
    "invalid type: " ++ found.text ++ ", expected " ++ expected ++ place ++
      file.elim "" (" in " ++ ·)
  | .shape found expected =>
    "invalid type: " ++ misplacedText found ++ ", expected " ++ expected.text ++ place
  | .length found expected => s!"invalid length {found}, expected " ++ expected.lengthText ++ place
  | .id e => "UUID parsing failed: " ++ e.message ++ place

end Friendship.Settings
