import Friendship.Text.Hex
import Friendship.Toml.Reader

/-!
# Strings

A basic string stands between double quotes and has escapes; a literal string stands between
single quotes and has none. Three quotes on either side allow line ends in the string, and up to
two more quotes at its end belong to it. A line end right behind the opening quotes is dropped,
and every other one is kept as it is written.
-/

namespace Friendship.Toml.Reader

/-- Characters that stand for themselves in basic strings. -/
def isBasic (c : Char) : Bool :=
  c == '\t' || (0x20 ≤ c.toNat && c.toNat < 0x7F && c ≠ '"' && c ≠ '\\') || isForeign c

/-- Characters of literal strings. -/
def isLiteral (c : Char) : Bool :=
  c == '\t' || (0x20 ≤ c.toNat && c.toNat < 0x7F && c ≠ '\'') || isForeign c

/-- The character with a code point in hexadecimal digits. -/
def codePoint? (digits : List Char) : Option Char := do
  let n ← digits.foldlM (fun n c => (Text.Hex.value? c).map (16 * n + ·)) 0
  if n.isValidChar then some (Char.ofNat n) else none

/-- Takes a number of digits of a code point. -/
def codePoint (count : Nat) : Reader Char := do
  let digits := (← get).take count
  if digits.length < count then refuse
  modify (·.drop count)
  require (codePoint? digits)

/-- The rest of an escape, behind the backslash. -/
def escape : Reader Char := do
  match ← next with
  | 'b' => pure '\x08'
  | 'e' => pure '\x1b'
  | 't' => pure '\t'
  | 'n' => pure '\n'
  | 'f' => pure '\x0c'
  | 'r' => pure '\r'
  | '"' => pure '"'
  | '\\' => pure '\\'
  | 'x' => codePoint 2
  | 'u' => codePoint 4
  | 'U' => codePoint 8
  | _ => refuse

/-- The rest of a basic string on one line. -/
def basicLine : Reader String := do
  let cs ← many do
    match ← next with
    | '"' => pure none
    | '\\' => pure (some (← escape))
    | c => if isBasic c then pure (some c) else refuse
  pure (String.ofList cs)

/-- The rest of a literal string on one line. -/
def literalLine : Reader String := do
  let cs ← many do
    match ← next with
    | '\'' => pure none
    | c => if isLiteral c then pure (some c) else refuse
  pure (String.ofList cs)

/-- Whether only blanks are left of the line. -/
def atLineEnd (cs : List Char) : Bool :=
  match cs.dropWhile isBlank with
  | '\n' :: _ | '\r' :: '\n' :: _ => true
  | _ => false

/-- A piece of a basic string on many lines. A backslash at the end of a line drops all blanks
and line ends up to the next other character. -/
def basicPiece : Reader (List Char) := do
  match ← newline? with
  | some ending => pure ending
  | none =>
    match ← next with
    | '\\' =>
      if atLineEnd (← get) then
        let _ ← many (α := Unit) do
          skipBlanks
          if ← skipNewline then pure (some ()) else pure none
        pure []
      else pure [← escape]
    | c => if isBasic c || c == '"' then pure [c] else refuse

/-- A piece of a literal string on many lines. -/
def literalPiece : Reader (List Char) := do
  match ← newline? with
  | some ending => pure ending
  | none =>
    let c ← next
    if isLiteral c || c == '\'' then pure [c] else refuse

/-- The rest of a string on many lines, made of pieces. -/
def lines (quote : Char) (piece : Reader (List Char)) : Reader String := do
  let _ ← skipNewline
  let pieces ← many do
    if ← startsWith [quote, quote, quote] then pure none else pure (some (← piece))
  let quotes ← takeWhile (· == quote)
  if quotes.length < 3 ∨ 5 < quotes.length then refuse
  pure (String.ofList (pieces.flatten ++ quotes.drop 3))

/-- A string on one line, if one is next. -/
def lineString? : Reader (Option String) := do
  if ← skipChar '"' then pure (some (← basicLine))
  else if ← skipChar '\'' then pure (some (← literalLine))
  else pure none

/-- A string, if one is next. -/
def string? : Reader (Option String) := do
  if ← startsWith ['"', '"', '"'] then
    modify (·.drop 3)
    pure (some (← lines '"' basicPiece))
  else if ← startsWith ['\'', '\'', '\''] then
    modify (·.drop 3)
    pure (some (← lines '\'' literalPiece))
  else lineString?

end Friendship.Toml.Reader
