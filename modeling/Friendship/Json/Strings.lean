import Friendship.Json.Cursor
import Friendship.Text.Hex
import Friendship.Text.Utf8

/-!
# Strings in a JSON text

A string ends at the next quote that is not escaped. Control characters have to be escaped, and
escapes of surrogates have to come in pairs. The bytes in between have to be UTF-8, which is only
asked for when the end of the string was found.
-/

namespace Friendship.Json.Reader

/-- The UTF-8 bytes of a code point. -/
def utf8 (n : Nat) : List UInt8 := (String.singleton (Char.ofNat n)).toUTF8.data.toList

/-- The number that four hexadecimal digits spell. -/
def hexEscape : Reader Nat := do
  let digits := (← get).rest.take 4
  digits.forM fun _ => skip
  if digits.length < 4 then failHere .eofString
  match digits.mapM fun b => Text.Hex.value? (Char.ofNat b.toNat) with
  | some values => pure (values.foldl (fun n d => 16 * n + d) 0)
  | none => failHere .invalidEscape

/-- Takes a byte that has to come next in the second half of a pair of surrogates. -/
def pairByte (c : Char) : Reader Unit := do
  match ← peek with
  | none => failHere .eofString
  | some b =>
    skip
    if b ≠ ascii c then failHere .unexpectedEndOfHexEscape

/-- The bytes of an escaped code point, the second half of a pair included. -/
def unicodeEscape : Reader (List UInt8) := do
  let n ← hexEscape
  if 0xDC00 ≤ n ∧ n ≤ 0xDFFF then failHere .loneSurrogate
  if 0xD800 ≤ n ∧ n ≤ 0xDBFF then
    pairByte '\\'
    pairByte 'u'
    let m ← hexEscape
    if m < 0xDC00 ∨ 0xDFFF < m then failHere .loneSurrogate
    pure (utf8 (0x10000 + (n - 0xD800) * 0x400 + (m - 0xDC00)))
  else pure (utf8 n)

/-- The bytes that an escape stands for, its backslash being behind. -/
def escape : Reader (List UInt8) := do
  match ← peek with
  | none => failHere .eofString
  | some b =>
    skip
    match Char.ofNat b.toNat with
    | '"' => pure [34]
    | '\\' => pure [92]
    | '/' => pure [47]
    | 'b' => pure [8]
    | 'f' => pure [12]
    | 'n' => pure [10]
    | 'r' => pure [13]
    | 't' => pure [9]
    | 'u' => unicodeEscape
    | _ => failHere .invalidEscape

/-- Whether a byte stands for itself in a string. -/
def isPlain (b : UInt8) : Bool := b ≠ 34 && b ≠ 92 && 32 ≤ b

/-- The bytes up to the closing quote, after those already read. -/
def stringBytes (acc : List UInt8) : Nat → Reader (List UInt8)
  | 0 => failHere .eofString
  | fuel + 1 => do
    let plain ← peekWhile isPlain
    skipWhile isPlain
    match ← peek with
    | none => failHere .eofString
    | some 34 => pure (acc ++ plain)
    | some 92 =>
      skip
      let escaped ← escape
      stringBytes (acc ++ plain ++ escaped) fuel
    | some _ =>
      skip
      failHere .controlCharacter

/-- Fails behind the first byte that is wrong in a string between two cursors. -/
def failInside {α : Type} (start stop : Cursor) : Reader α :=
  let inside := start.rest.take (start.rest.length - stop.rest.length)
  let place := ((Text.Utf8.fault? inside).map Text.Utf8.Fault.place).getD 0
  throw ⟨.invalidCodePoint, some (start.forward (place + 1)).position⟩

/-- The text up to the closing quote, the opening one being behind. -/
def stringText : Reader String := do
  let start ← get
  let bytes ← stringBytes [] (start.rest.length + 1)
  let stop ← get
  skip
  match Text.Utf8.text? bytes with
  | some s => pure s
  | none => failInside start stop

/-- Leaves a string behind of which only the form counts. -/
def skipString : Nat → Reader Unit
  | 0 => failHere .eofString
  | fuel + 1 => do
    skipWhile isPlain
    match ← peek with
    | none => failHere .eofString
    | some 34 => skip
    | some 92 =>
      skip
      match ← peek with
      | none => failHere .eofString
      | some b =>
        skip
        if b = ascii 'u' then
          let _ ← hexEscape
          skipString fuel
        else if (Char.ofNat b.toNat) ∈ ['"', '\\', '/', 'b', 'f', 'n', 'r', 't'] then
          skipString fuel
        else failHere .invalidEscape
    | some _ => failHere .controlCharacter

end Friendship.Json.Reader
