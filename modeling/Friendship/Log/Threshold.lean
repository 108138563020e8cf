import Friendship.Arithmetic
import Friendship.Log.Event
import Friendship.Text.Number

/-!
# How much is told

A threshold is written as a level's name in any case, as `off`, or as a number.
-/

namespace Friendship.Log

/-- How much detail is told: nothing, or all up to a level. -/
abbrev Threshold := Option Level

namespace Threshold

/-- Whether events of a level are told. -/
def admits (threshold : Threshold) (level : Level) : Bool :=
  threshold.any fun most => level.detail ≤ most.detail

/-- The threshold of a number. -/
def ofNumber? : Nat → Option Threshold
  | 0 => some none
  | 1 => some (some .error)
  | 2 => some (some .warn)
  | 3 => some (some .info)
  | 4 => some (some .debug)
  | 5 => some (some .trace)
  | _ => none

/-- The threshold of a word, in any case. -/
def ofWord? (word : String) : Option Threshold :=
  let lower := word.toLower
  if lower = "off" then some none
  else (Level.all.find? fun level => level.text.toLower = lower).map some

def read? (cs : List Char) : Option Threshold :=
  match (Text.Number.unsigned? (2 ^ 64) cs).bind ofNumber? with
  | some threshold => some threshold
  | none => ofWord? (String.ofList cs)

end Threshold

end Friendship.Log
