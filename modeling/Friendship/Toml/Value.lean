import Friendship.Decimal.Binary64

/-!
# TOML values

Dates and times are kept as texts in one spelling. The members of a table have different names.
-/

namespace Friendship.Toml

inductive Value
  | string (s : String)
  | integer (n : Int)
  | float (x : Decimal.Binary64)
  | boolean (b : Bool)
  /-- A date, a time or both, with or without an offset. -/
  | moment (text : String)
  | list (elements : List Value)
  | table (members : List (String × Value))

end Friendship.Toml
