/-!
# Hexadecimal digits

Lower-case digits are written, digits of either case are read. Two digits make a byte, the
high half first.
-/

namespace Friendship.Text.Hex

/-- The lower-case digit of a number below sixteen. -/
def digit (n : Nat) : Char :=
  if n < 10 then Char.ofNat (48 + n) else Char.ofNat (87 + n)

/-- The value of a digit in either case. -/
def value? (c : Char) : Option Nat :=
  if '0' ≤ c ∧ c ≤ '9' then some (c.toNat - 48)
  else if 'a' ≤ c ∧ c ≤ 'f' then some (c.toNat - 87)
  else if 'A' ≤ c ∧ c ≤ 'F' then some (c.toNat - 55)
  else none

def isDigit (c : Char) : Bool := (value? c).isSome

/-- The two digits of a byte. -/
def ofByte (b : UInt8) : List Char :=
  [digit (b.toNat / 16), digit (b.toNat % 16)]

def ofBytes (bs : List UInt8) : List Char := bs.flatMap ofByte

/-- The byte that two digits spell. -/
def byte? (high low : Char) : Option UInt8 := do
  let h ← value? high
  let l ← value? low
  pure (UInt8.ofNat (16 * h + l))

/-- The bytes that an even number of digits spells. -/
def bytes? : List Char → Option (List UInt8)
  | [] => some []
  | [_] => none
  | h :: l :: rest => do
    let b ← byte? h l
    let bs ← bytes? rest
    pure (b :: bs)

theorem length_bytes? {cs : List Char} {bs : List UInt8} (h : bytes? cs = some bs) :
    cs.length = 2 * bs.length := by
  fun_induction bytes? cs generalizing bs with
  | case1 => simp_all
  | case2 => simp at h
  | case3 c d rest ih =>
    simp only [bind, Option.bind_eq_some_iff, pure, Option.some.injEq] at h
    obtain ⟨b, _, bs', hbs, rfl⟩ := h
    simp [ih hbs]; omega

end Friendship.Text.Hex
