/-!
# Texts for terminals

A terminal takes commands in what is printed: an escape character begins them. A text is made
plain by dropping commands and control characters, except those that are blanks.
-/

namespace Friendship.Text.Terminal

/-- What a terminal reads at a place of a text. -/
inductive Reading
  /-- What is to be seen. -/
  | text
  /-- A command, behind its escape character. -/
  | command
  /-- A command of several characters. -/
  | longCommand
  /-- A command with parameters, up to a letter. -/
  | parameters
  /-- A message to the terminal, which a bell ends. -/
  | message
  /-- A string, which the byte 156 ends. -/
  | string
  deriving DecidableEq, Repr

namespace Reading

def isBlank (c : Char) : Bool :=
  c = ' ' || c = '\t' || c = '\n' || c = '\x0c' || c = '\r'

/-- Whether the terminal shows a character of a text. -/
def isShown (c : Char) : Bool := isBlank c || (0x20 ≤ c.toNat && c.toNat ≠ 0x7F)

/-- Whether a character lies between two others. -/
def isFrom (low high : Nat) (c : Char) : Bool := low ≤ c.toNat && c.toNat ≤ high

/-- Whether one of the bytes of a character ends a string. -/
def endsString (c : Char) : Bool := (String.singleton c).toUTF8.data.contains 156

/-- What a command is behind its first character. -/
def ofCommand (c : Char) : Reading :=
  if c = '[' then parameters
  else if c = ']' then message
  else if ['P', 'X', '^', '_'].contains c then string
  else if isFrom 0x20 0x2F c then longCommand
  else if isFrom 0x30 0x7E c then text
  else command

/-- What the terminal reads behind a character, and whether it shows that. A blank that is no
space breaks a command off, but not a message or a string. -/
def behind (reading : Reading) (c : Char) : Reading × Bool :=
  if c = '\x1b' then (command, false)
  else if c = '\x18' ∨ c = '\x1a' then (text, false)
  else
    match reading with
    | text => (text, isShown c)
    | message => (if c = '\x07' then text else message, false)
    | string => (if endsString c then text else string, false)
    | command | longCommand | parameters =>
      if isBlank c ∧ c ≠ ' ' then (text, true)
      else
        match reading with
        | command => (ofCommand c, false)
        | longCommand => (if isFrom 0x30 0x7E c then text else longCommand, false)
        | _ => (if isFrom 0x40 0x7E c then text else reading, false)

/-- The characters that the terminal shows. -/
def shown (reading : Reading) : List Char → List Char
  | [] => []
  | c :: rest =>
    match reading.behind c with
    | (reading, true) => c :: shown reading rest
    | (reading, false) => shown reading rest

end Reading

/-- What a terminal shows of a text. -/
def plain (s : String) : String := String.ofList (Reading.text.shown s.toList)

end Friendship.Text.Terminal
