import Friendship.Text.Quoted

/-!
# Values as texts

A record is shown as its name and its fields in braces, a list in brackets, and strings are
quoted.
-/

namespace Friendship.Text.Shown

open Text.Quoted (ofString)

/-- A record with its fields. -/
def record (name : String) (fields : List (String × String)) : String :=
  let members := ", ".intercalate (fields.map fun (field, value) => field ++ ": " ++ value)
  name ++ " \x7b " ++ members ++ " \x7d"

def list (elements : List String) : String := "[" ++ ", ".intercalate elements ++ "]"

def string (s : String) : String := ofString s

def option : Option String → String
  | none => "None"
  | some s => "Some(" ++ s ++ ")"

def boolean (b : Bool) : String := if b then "true" else "false"

end Friendship.Text.Shown
