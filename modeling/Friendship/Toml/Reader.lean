/-!
# Reading a text character by character

A reader takes characters from the front of a text or refuses the text. Lines end with a line
feed, possibly after a carriage return.
-/

namespace Friendship.Toml

/-- A reader of a value; the state is the rest of the text. -/
abbrev Reader (α : Type) := StateT (List Char) Option α

namespace Reader

variable {α : Type}

def refuse : Reader α := fun _ => none

/-- Goes on only with a value. -/
def require : Option α → Reader α
  | some a => pure a
  | none => refuse

/-- Takes the next character. -/
def next : Reader Char := fun
  | c :: rest => some (c, rest)
  | [] => none

/-- Takes a character if it is the next one. -/
def skipChar (c : Char) : Reader Bool := fun
  | d :: rest => if d = c then some (true, rest) else some (false, d :: rest)
  | [] => some (false, [])

/-- Takes a character that has to be there. -/
def expect (c : Char) : Reader Unit := do
  if ← skipChar c then pure () else refuse

/-- Takes all next characters of a kind. -/
def takeWhile (kind : Char → Bool) : Reader (List Char) := fun cs =>
  some (cs.takeWhile kind, cs.dropWhile kind)

/-- Whether the text goes on with given characters. -/
def startsWith (lead : List Char) : Reader Bool := do pure (lead.isPrefixOf (← get))

/-- Takes the end of a line, if it is next, and gives its characters. -/
def newline? : Reader (Option (List Char)) := fun
  | '\n' :: rest => some (some ['\n'], rest)
  | '\r' :: '\n' :: rest => some (some ['\r', '\n'], rest)
  | cs => some (none, cs)

/-- Takes the end of a line, if it is next. -/
def skipNewline : Reader Bool := do pure (← newline?).isSome

/-- The results of a step, made until it gives no more or the fuel is used up. -/
def repeatFor (step : Reader (Option α)) : Nat → Reader (List α)
  | 0 => refuse
  | fuel + 1 => do
    match ← step with
    | none => pure []
    | some a => do
      let rest ← repeatFor step fuel
      pure (a :: rest)

/-- The results of a step that takes characters, made until it gives no more. -/
def many (step : Reader (Option α)) : Reader (List α) := do
  repeatFor step ((← get).length + 1)

def isBlank (c : Char) : Bool := c == ' ' || c == '\t'

def skipBlanks : Reader Unit := do
  let _ ← takeWhile isBlank

/-- Beyond ASCII every character may stand in comments and strings. -/
def isForeign (c : Char) : Bool := 0x80 ≤ c.toNat

/-- Characters of a comment. -/
def isRemark (c : Char) : Bool := c == '\t' || (0x20 ≤ c.toNat && c.toNat < 0x7F) || isForeign c

/-- Takes a comment, if it is next. -/
def skipComment : Reader Unit := do
  if ← skipChar '#' then
    let _ ← takeWhile isRemark

/-- Takes blanks, line ends and comments. -/
def skipSpace : Reader Unit := do
  let _ ← many (α := Unit) do
    skipBlanks
    skipComment
    if ← skipNewline then pure (some ()) else pure none

/-- Takes the end of a line or the text, possibly after a comment. -/
def endLine : Reader Unit := do
  skipBlanks
  skipComment
  if ← skipNewline then pure ()
  else if (← get).isEmpty then pure ()
  else refuse

end Reader
end Friendship.Toml
