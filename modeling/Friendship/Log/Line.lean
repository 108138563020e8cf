import Friendship.Log.Event
import Friendship.Text.Quoted

/-!
# Log lines

A line tells the level, the target, the message and the named values of an event.
-/

namespace Friendship.Log

/-- A value as a line tells it. -/
def Value.lineText : Value → String
  | quoted s => Text.Quoted.ofString s
  | shown s => s
  | number n => String.ofList (Text.Number.natChars n)

def Event.line (e : Event) : String :=
  let message := e.message.elim "" (" " ++ ·)
  let fields := e.fields.map fun (name, value) => " " ++ name ++ "=" ++ value.lineText
  e.level.text ++ " " ++ e.target ++ ":" ++ message ++ String.join fields

end Friendship.Log
