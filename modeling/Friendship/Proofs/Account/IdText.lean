import Friendship.Account.IdText

/-!
# Ids and their texts

The digits of a byte spell it again, so the digits in the text of an id spell the id:
`ofDigits?_chars`. No two ids have the same text: `text_inj`.
-/
namespace Friendship

namespace Text.Hex

/-- A digit spells the number that it was written for, and is no hyphen. -/
theorem value?_digit {n : Nat} (h : n < 16) : value? (digit n) = some n ∧ digit n ≠ '-' := by
  have hall : ∀ m : Fin 16, value? (digit m.val) = some m.val ∧ digit m.val ≠ '-' := by decide
  exact hall ⟨n, h⟩

theorem byte?_ofByte (b : UInt8) :
    byte? (digit (b.toNat / 16)) (digit (b.toNat % 16)) = some b := by
  have hb : b.toNat < 256 := b.toNat_lt
  have hhigh : b.toNat / 16 < 16 := by omega
  have hlow : b.toNat % 16 < 16 := by omega
  have hsum : UInt8.ofNat (16 * (b.toNat / 16) + b.toNat % 16) = b := by
    rw [Nat.div_add_mod]
    exact UInt8.ofNat_toNat
  simp only [byte?, (value?_digit hhigh).1, (value?_digit hlow).1, bind, Option.bind_some, pure,
    hsum]

theorem bytes?_ofBytes (bs : List UInt8) : bytes? (ofBytes bs) = some bs := by
  induction bs with
  | nil => rfl
  | cons b bs ih =>
    have hbs : bytes? (List.flatMap ofByte bs) = some bs := ih
    simp [ofBytes, ofByte, bytes?, byte?_ofByte, hbs]

theorem ne_hyphen_of_mem_ofBytes {bs : List UInt8} {c : Char} (h : c ∈ ofBytes bs) : c ≠ '-' := by
  simp only [ofBytes, List.mem_flatMap, ofByte, List.mem_cons, List.not_mem_nil, or_false] at h
  obtain ⟨b, -, rfl | rfl⟩ := h
  · have hb : b.toNat < 256 := b.toNat_lt
    exact (value?_digit (by omega)).2
  · exact (value?_digit (by omega)).2

/-- Digits are not lost with the hyphens. -/
theorem filter_ofBytes (bs : List UInt8) : (ofBytes bs).filter (· ≠ '-') = ofBytes bs := by
  refine List.filter_eq_self.2 fun c hc => ?_
  simpa using ne_hyphen_of_mem_ofBytes hc

theorem ofBytes_append (bs bs' : List UInt8) : ofBytes (bs ++ bs') = ofBytes bs ++ ofBytes bs' := by
  simp [ofBytes]

end Text.Hex

namespace AccountId

/-- Without its hyphens the text of an id has the digits of its bytes. -/
theorem filter_chars (id : AccountId) :
    id.chars.filter (· ≠ '-') = Text.Hex.ofBytes id.bytes := by
  have hsplit : ∀ n, (id.bytes.drop n).take 2 ++ id.bytes.drop (n + 2) = id.bytes.drop n := by
    intro n
    rw [← List.drop_drop]
    exact List.take_append_drop 2 (id.bytes.drop n)
  have hhyphen : ∀ cs : List Char, ('-' :: cs).filter (· ≠ '-') = cs.filter (· ≠ '-') := by
    intro cs
    simp
  unfold chars
  simp only [List.filter_append, hhyphen, Text.Hex.filter_ofBytes, ← Text.Hex.ofBytes_append]
  rw [hsplit 8, hsplit 6, hsplit 4, List.take_append_drop]

theorem ofDigits?_chars (id : AccountId) : ofDigits? (id.chars.filter (· ≠ '-')) = some id := by
  rw [filter_chars, ofDigits?, Text.Hex.bytes?_ofBytes]
  simp [ofBytes?, id.length_bytes]

theorem text_inj {a b : AccountId} : a.text = b.text ↔ a = b := by
  constructor
  · intro h
    have hchars : a.chars = b.chars := String.ofList_inj.1 h
    have ha := ofDigits?_chars a
    rw [hchars, ofDigits?_chars] at ha
    exact (Option.some.inj ha).symm
  · rintro rfl
    rfl

end AccountId
end Friendship
