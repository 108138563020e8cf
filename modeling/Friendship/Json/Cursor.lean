import Friendship.Json.Fault

/-!
# Reading a JSON text byte by byte

A cursor is the rest of a text and the place where it begins. Readers move the cursor on and
stop at the first fault, leaving the cursor where they stopped. Unless told otherwise a fault is
placed behind what was read; a fault of the next byte is placed behind that byte.
-/

namespace Friendship.Json

structure Cursor where
  rest : List UInt8
  line : Nat := 1
  column : Nat := 0

namespace Cursor

/-- The cursor behind the next byte; a line feed begins a new line. -/
def advance (c : Cursor) : Cursor :=
  match c.rest with
  | [] => c
  | b :: rest =>
    if b = 10 then ⟨rest, c.line + 1, 0⟩ else ⟨rest, c.line, c.column + 1⟩

/-- The cursor behind a number of bytes. -/
def forward (c : Cursor) : Nat → Cursor
  | 0 => c
  | n + 1 => c.advance.forward n

def position (c : Cursor) : Position := ⟨c.line, c.column⟩

end Cursor

/-- A reader of a value. -/
abbrev Reader (α : Type) := ExceptT Error (StateM Cursor) α

namespace Reader

/-- The byte of an ASCII character. -/
def ascii (c : Char) : UInt8 := UInt8.ofNat c.toNat

/-- Fails behind what was read. -/
def failHere {α : Type} (fault : Fault) : Reader α := do
  throw ⟨fault, some (← get).position⟩

/-- Fails behind the next byte. -/
def failNext {α : Type} (fault : Fault) : Reader α := do
  throw ⟨fault, some (← get).advance.position⟩

/-- Fails with a fault of the value, whose place is still to be told. -/
def failValue {α : Type} (fault : Fault) : Reader α := throw ⟨fault, none⟩

/-- Gives a fault without a place the place where reading stopped. -/
def placed {α : Type} (reader : Reader α) : Reader α :=
  tryCatch reader fun e => do
    match e.position with
    | some _ => throw e
    | none => throw ⟨e.fault, some (← get).position⟩

/-- The next byte, which stays. -/
def peek : Reader (Option UInt8) := do pure (← get).rest.head?

/-- Leaves the next byte behind. -/
def skip : Reader Unit := modify Cursor.advance

/-- Takes the next byte. -/
def next : Reader (Option UInt8) := do
  let b ← peek
  skip
  pure b

def isBlank (b : UInt8) : Bool := b == 32 || b == 10 || b == 9 || b == 13

def isDigit (b : UInt8) : Bool := 48 ≤ b && b ≤ 57

/-- The cursor behind all next bytes of a kind. -/
def dropWhile (kind : UInt8 → Bool) : List UInt8 → Cursor → Cursor
  | [], c => c
  | b :: rest, c => if kind b then dropWhile kind rest c.advance else c

/-- Leaves all next bytes of a kind behind. -/
def skipWhile (kind : UInt8 → Bool) : Reader Unit :=
  modify fun c => dropWhile kind c.rest c

/-- The next bytes of a kind, which stay. -/
def peekWhile (kind : UInt8 → Bool) : Reader (List UInt8) := do
  pure ((← get).rest.takeWhile kind)

/-- Leaves blanks behind; the byte after them. -/
def afterBlanks : Reader (Option UInt8) := do
  skipWhile isBlank
  peek

/-- Takes the letters that complete a word. -/
def word : List Char → Reader Unit
  | [] => pure ()
  | c :: rest => do
    match ← next with
    | none => failHere .eofValue
    | some b => if b = ascii c then word rest else failHere .expectedIdent

/-- Reads a whole text. -/
def run {α : Type} (reader : Reader α) (bytes : List UInt8) : Except Error α :=
  ((ExceptT.run reader).run ⟨bytes, 1, 0⟩).1

/-- Fails unless only blanks are left. -/
def finish : Reader Unit := do
  if (← afterBlanks).isSome then failNext .trailingCharacters

end Reader
end Friendship.Json
