import Friendship.Toml.Numbers
import Friendship.Toml.Strings
import Friendship.Toml.Tables

/-!
# TOML documents

A document has one key with its value, or one header, on each line. Lists and inline tables may
be nested up to a limit, which holds for the names of a dotted key too. Between the tokens of a
list or an inline table there may be line ends and comments, and its last element may be followed
by a comma.
-/

namespace Friendship.Toml

namespace Reader

def nestingLimit : Nat := 80

/-- Characters of a key without quotes. -/
def isBare (c : Char) : Bool := c.isAlphanum || c == '_' || c == '-'

/-- One name of a key. -/
def name : Reader String := do
  match ← lineString? with
  | some s => pure s
  | none =>
    let cs ← takeWhile isBare
    if cs.isEmpty then refuse else pure (String.ofList cs)

/-- A name with blanks around it. -/
def spacedName : Reader String := do
  skipBlanks
  let s ← name
  skipBlanks
  pure s

/-- The names of a key, with dots between them. -/
def key : Reader (List String) := do
  let first ← spacedName
  let rest ← many do
    if ← skipChar '.' then pure (some (← spacedName)) else pure none
  if rest.length < nestingLimit then pure (first :: rest) else refuse

/-- Characters of numbers, dates, times and words. -/
def isWord (c : Char) : Bool :=
  c.isAlphanum || c == '_' || c == '+' || c == '-' || c == '.' || c == ':'

/-- Whether a date is followed by a blank and a digit. -/
def timeFollows (word rest : List Char) : Bool :=
  match Moment.date? word, rest with
  | some (_, []), ' ' :: c :: _ => Text.Number.isDigit c
  | _, _ => false

/-- A number, date, time or word. -/
def word : Reader Value := do
  let cs ← takeWhile isWord
  if timeFollows cs (← get) then
    let _ ← next
    let time ← takeWhile isWord
    require (wordValue? (cs ++ ' ' :: time))
  else require (wordValue? cs)

/-- A key with its value; `gap` takes what may stand around the equals sign. -/
def pair (gap : Reader Unit) (value : Reader Value) : Reader (List String × Value) := do
  let names ← key
  gap
  expect '='
  gap
  let v ← value
  pure (names, v)

variable {α : Type}

/-- The elements up to a closing bracket, with commas between them and possibly one at the end. -/
def elements (close : Char) (element : Reader α) : Reader (List α) := do
  skipSpace
  let all ← many do
    if ← startsWith [close] then pure none
    else
      let a ← element
      skipSpace
      if !(← startsWith [close]) then expect ','
      skipSpace
      pure (some a)
  expect close
  pure all

/-- A value in which lists and inline tables may stand in one another on a number of levels. -/
def valueWithin : Nat → Reader Value
  | 0 => do
    match ← string? with
    | some s => pure (.string s)
    | none => word
  | depth + 1 => do
    if ← skipChar '[' then pure (.list (← elements ']' (valueWithin depth)))
    else if ← skipChar '\x7b' then
      require (inlineTable? (← elements '\x7d' (pair skipSpace (valueWithin depth))))
    else valueWithin 0

def value : Reader Value := valueWithin nestingLimit

/-- Pairs on lines of their own, up to a header or the end. -/
def pairLines : Reader (List (List String × Value)) := many do
  skipSpace
  if (← get).isEmpty || (← startsWith ['[']) then pure none
  else
    let p ← pair skipBlanks value
    endLine
    pure (some p)

/-- The names in a header, the last one apart. -/
def headerNames : Reader (List String × String) := do
  let names ← key
  match names.getLast? with
  | some last => pure (names.dropLast, last)
  | none => refuse

/-- A header with what follows it, if there is one. -/
def part? : Reader (Option Part) := do
  if ← skipChar '[' then
    let isElement ← skipChar '['
    let (path, name) ← headerNames
    expect ']'
    if isElement then expect ']'
    endLine
    pure (some ⟨path, name, isElement, ← pairLines⟩)
  else pure none

/-- A whole document, which may begin with a byte order mark. -/
def document : Reader (List (String × Value)) := do
  let _ ← skipChar '\uFEFF'
  let pairs ← pairLines
  let parts ← many part?
  if (← get).isEmpty then require (assemble? pairs parts) else refuse

end Reader

/-- The members of the table that a text stands for. -/
def read? (text : String) : Option (List (String × Value)) :=
  (Reader.document text.toList).map Prod.fst

end Friendship.Toml
