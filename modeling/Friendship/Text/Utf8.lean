/-!
# Bytes as UTF-8

Bytes are read as characters from the front. Where that fails, the bytes are wrong up to the first
one that cannot go on, or they end in the middle of a character.
-/

namespace Friendship.Text.Utf8

/-- What stands at the front of bytes. -/
inductive Front
  /-- A character of a number of bytes. -/
  | character (size : Nat)
  /-- A number of bytes that no character begins with. -/
  | wrong (size : Nat)
  /-- The beginning of a character, and nothing behind it. -/
  | unfinished
  deriving DecidableEq, Repr

/-- The bounds of the bytes that follow the first byte of a longer character. -/
def followers (first : UInt8) : List (UInt8 × UInt8) :=
  let plain := (0x80, 0xBF)
  if first < 0xC2 ∨ 0xF4 < first then []
  else if first < 0xE0 then [plain]
  else if first = 0xE0 then [(0xA0, 0xBF), plain]
  else if first = 0xED then [(0x80, 0x9F), plain]
  else if first < 0xF0 then [plain, plain]
  else if first = 0xF0 then [(0x90, 0xBF), plain, plain]
  else if first = 0xF4 then [(0x80, 0x8F), plain, plain]
  else [plain, plain, plain]

/-- Goes on behind the first bytes of a character. -/
def frontBehind (size : Nat) : List (UInt8 × UInt8) → List UInt8 → Front
  | [], _ => .character size
  | _ :: _, [] => .unfinished
  | (low, high) :: more, b :: rest =>
    if low ≤ b ∧ b ≤ high then frontBehind (size + 1) more rest else .wrong size

def front (first : UInt8) (rest : List UInt8) : Front :=
  if first < 0x80 then .character 1
  else
    match followers first with
    | [] => .wrong 1
    | bounds => frontBehind 1 bounds rest

/-- Where bytes stop being characters. -/
structure Fault where
  place : Nat
  /-- How many bytes are wrong; none if they end too early. -/
  wrong : Option Nat
  deriving DecidableEq, Repr

def Fault.message (f : Fault) : String :=
  match f.wrong with
  | some n => s!"invalid utf-8 sequence of {n} bytes from index {f.place}"
  | none => s!"incomplete utf-8 byte sequence from index {f.place}"

/-- The first fault of bytes from a place on, the first `begun` of which end a character. -/
def faultFrom (place begun : Nat) : List UInt8 → Option Fault
  | [] => none
  | b :: rest =>
    match begun with
    | begun + 1 => faultFrom (place + 1) begun rest
    | 0 =>
      match front b rest with
      | .character size => faultFrom (place + 1) (size - 1) rest
      | .wrong size => some ⟨place, some size⟩
      | .unfinished => some ⟨place, none⟩

def fault? (bytes : List UInt8) : Option Fault := faultFrom 0 0 bytes

/-- The bytes of the character that stands for what is no character. -/
def replacement : List UInt8 := [0xEF, 0xBF, 0xBD]

/-- Bytes with a replacement for each fault. The first `begun` bytes end a character, or else the
first `dropped` ones a fault. -/
def mendedFrom (begun dropped : Nat) : List UInt8 → List UInt8
  | [] => []
  | b :: rest =>
    match begun, dropped with
    | begun + 1, dropped => b :: mendedFrom begun dropped rest
    | 0, dropped + 1 => mendedFrom 0 dropped rest
    | 0, 0 =>
      match front b rest with
      | .character size => b :: mendedFrom (size - 1) 0 rest
      | .wrong size => replacement ++ mendedFrom 0 (size - 1) rest
      | .unfinished => replacement

/-- The text of bytes, if they are characters. -/
def text? (bytes : List UInt8) : Option String := String.fromUTF8? ⟨bytes.toArray⟩

/-- The text of bytes, or the first fault. -/
def read (bytes : List UInt8) : Except Fault String :=
  match fault? bytes, text? bytes with
  | some fault, _ => .error fault
  | none, some s => .ok s
  | none, none => .error ⟨0, none⟩

/-- The text of bytes with a replacement character for each fault. -/
def mended (bytes : List UInt8) : String := (text? (mendedFrom 0 0 bytes)).getD ""

end Friendship.Text.Utf8
