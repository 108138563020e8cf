import Friendship.Text.Number

/-!
# Log events

An event has a level, the part of the program it comes from, possibly a message, and named
values. A value is a number, or a text that is either quoted or shown as it is.
-/

namespace Friendship.Log

/-- From the most to the least detailed. -/
inductive Level
  | trace
  | debug
  | info
  | warn
  | error
  deriving DecidableEq, Repr, Inhabited

namespace Level

def text : Level → String
  | trace => "TRACE"
  | debug => "DEBUG"
  | info => "INFO"
  | warn => "WARN"
  | error => "ERROR"

def all : List Level := [trace, debug, info, warn, error]

/-- Zero for errors, one more for each more detailed level. -/
def detail : Level → Nat
  | error => 0
  | warn => 1
  | info => 2
  | debug => 3
  | trace => 4

end Level

/-- The value of a field. -/
inductive Value
  /-- A text that a log line quotes. -/
  | quoted (s : String)
  /-- A text that a log line shows as it is. -/
  | shown (s : String)
  | number (n : Nat)
  deriving DecidableEq, Repr

namespace Value

/-- The value without quotes. -/
def bare : Value → String
  | quoted s => s
  | shown s => s
  | number n => String.ofList (Text.Number.natChars n)

end Value

/-- Something worth telling. -/
structure Event where
  level : Level
  /-- The part of the program that tells it. -/
  target : String
  message : Option String := none
  fields : List (String × Value) := []
  deriving DecidableEq, Repr

namespace Event

/-- The names of what an event tells. -/
def fieldNames (e : Event) : List String :=
  (e.message.toList.map fun _ => "message") ++ e.fields.map Prod.fst

/-- Level, message and fields on one line, every value without quotes. -/
def summary (e : Event) : String :=
  let message := e.message.elim "" (" message=" ++ ·)
  let fields := e.fields.map fun (name, value) => " " ++ name ++ "=" ++ value.bare
  e.level.text ++ message ++ String.join fields

end Event
end Friendship.Log

namespace Friendship

/-- A result together with the events told on the way. -/
structure Logged (α : Type) where
  value : α
  log : List Log.Event := []

end Friendship
