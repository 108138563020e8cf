import Friendship.Proofs.Account.IdText
import Friendship.Proofs.Text.Bytes

/-!
# The order of ids and of their texts

A hexadecimal digit is a greater byte for a greater number, so the two digits of a byte are in the
order of bytes (`compare_ofByte`), and so are the digits of many (`compare_digitBytes`). The hyphens
of an id stand in the same places in all ids and settle nothing: `compare_text`.
-/
namespace Friendship

namespace Text.Hex

/-- The bytes of the digits of bytes. -/
def digitBytes (bs : List UInt8) : List UInt8 := bytes (ofBytes bs)

/-- The byte of a digit. -/
def digitByte (n : Nat) : UInt8 := UInt8.ofNat (digit n).toNat

theorem utf8EncodeChar_digit {n : Nat} (h : n < 16) :
    String.utf8EncodeChar (digit n) = [digitByte n] := by
  have hall : ∀ m : Fin 16, (digit m.val).toNat ≤ 0x7f := by decide
  exact utf8EncodeChar_of_ascii (hall ⟨n, h⟩)

theorem digitBytes_cons (b : UInt8) (bs : List UInt8) :
    digitBytes (b :: bs) =
      digitByte (b.toNat / 16) :: digitByte (b.toNat % 16) :: digitBytes bs := by
  have hb : b.toNat < 256 := b.toNat_lt
  simp [digitBytes, ofBytes, ofByte, bytes_cons,
    utf8EncodeChar_digit (show b.toNat / 16 < 16 by omega),
    utf8EncodeChar_digit (show b.toNat % 16 < 16 by omega)]

theorem length_digitBytes (bs : List UInt8) : (digitBytes bs).length = 2 * bs.length := by
  induction bs with
  | nil => rfl
  | cons b bs ih =>
    simp only [digitBytes_cons, List.length_cons, ih]
    omega

theorem compare_digitByte {m n : Nat} (hm : m < 16) (hn : n < 16) :
    compare (digitByte m) (digitByte n) = compare m n := by
  have hall : ∀ i j : Fin 16,
      compare (digitByte i.val) (digitByte j.val) = compare i.val j.val := by decide +kernel
  exact hall ⟨m, hm⟩ ⟨n, hn⟩

/-- The high halves of two numbers decide, and the low ones where the high ones are the same. -/
theorem compare_halves (m n : Nat) :
    (compare (m / 16) (n / 16)).then (compare (m % 16) (n % 16)) = compare m n := by
  rcases Nat.lt_trichotomy (m / 16) (n / 16) with hlt | heq | hgt
  · have hwhole : compare m n = .lt := Nat.compare_eq_lt.2 (by omega)
    rw [Nat.compare_eq_lt.2 hlt, hwhole, Ordering.lt_then]
  · have hlow : compare (m % 16) (n % 16) = compare m n := by
      rcases Nat.lt_trichotomy (m % 16) (n % 16) with hlt | heq' | hgt
      · rw [Nat.compare_eq_lt.2 hlt, Nat.compare_eq_lt.2 (by omega)]
      · rw [Nat.compare_eq_eq.2 heq', Nat.compare_eq_eq.2 (by omega)]
      · rw [Nat.compare_eq_gt.2 hgt, Nat.compare_eq_gt.2 (by omega)]
    rw [Nat.compare_eq_eq.2 heq, hlow, Ordering.eq_then]
  · have hwhole : compare m n = .gt := Nat.compare_eq_gt.2 (by omega)
    rw [Nat.compare_eq_gt.2 hgt, hwhole, Ordering.gt_then]

theorem compare_toNat (a b : UInt8) : compare a.toNat b.toNat = compare a b := by
  rcases Nat.lt_trichotomy a.toNat b.toNat with hlt | heq | hgt
  · rw [Nat.compare_eq_lt.2 hlt, Std.compare_eq_lt.2 (UInt8.lt_iff_toNat_lt.2 hlt)]
  · rw [Nat.compare_eq_eq.2 heq, Std.compare_eq_iff_eq.2 (UInt8.toNat_inj.1 heq)]
  · rw [Nat.compare_eq_gt.2 hgt, Std.compare_eq_gt.2 (UInt8.lt_iff_toNat_lt.2 hgt)]

theorem compare_ofByte (a b : UInt8) :
    (compare (digitByte (a.toNat / 16)) (digitByte (b.toNat / 16))).then
      (compare (digitByte (a.toNat % 16)) (digitByte (b.toNat % 16))) = compare a b := by
  have ha : a.toNat < 256 := a.toNat_lt
  have hb : b.toNat < 256 := b.toNat_lt
  rw [compare_digitByte (by omega) (by omega), compare_digitByte (by omega) (by omega),
    compare_halves, compare_toNat]

theorem compare_digitBytes (as bs : List UInt8) :
    compare (digitBytes as) (digitBytes bs) = compare as bs := by
  simp only [List.compare_eq_compareLex]
  induction as generalizing bs with
  | nil =>
    cases bs with
    | nil => rfl
    | cons b bs => rw [digitBytes_cons]; rfl
  | cons a as ih =>
    cases bs with
    | nil => rw [digitBytes_cons]; rfl
    | cons b bs =>
      rw [digitBytes_cons, digitBytes_cons, List.compareLex_cons_cons, List.compareLex_cons_cons,
        List.compareLex_cons_cons, ← Ordering.then_assoc, compare_ofByte, ih]

end Text.Hex

/-- Fronts of the same length decide first. -/
theorem compare_append {l l' m m' : List UInt8} (h : l.length = l'.length) :
    compare (l ++ m) (l' ++ m') = (compare l l').then (compare m m') := by
  simp only [List.compare_eq_compareLex]
  induction l generalizing l' with
  | nil =>
    obtain rfl : l' = [] := List.length_eq_zero_iff.1 h.symm
    rfl
  | cons a l ih =>
    cases l' with
    | nil => cases h
    | cons a' l' =>
      rw [List.cons_append, List.cons_append, List.compareLex_cons_cons, ih (Nat.succ.inj h),
        List.compareLex_cons_cons, Ordering.then_assoc]

namespace AccountId

open Text.Hex (digitBytes compare_digitBytes length_digitBytes)

/-- Bytes of ids from one place up to another, with a hyphen behind their digits. -/
theorem compare_group {a b : AccountId} (n k : Nat) {rest rest' : List UInt8}
    (hrest : compare rest rest' = compare (a.bytes.drop (n + k)) (b.bytes.drop (n + k))) :
    compare (digitBytes ((a.bytes.drop n).take k) ++ 45 :: rest)
        (digitBytes ((b.bytes.drop n).take k) ++ 45 :: rest') =
      compare (a.bytes.drop n) (b.bytes.drop n) := by
  have hlength : ((a.bytes.drop n).take k).length = ((b.bytes.drop n).take k).length := by
    simp [a.length_bytes, b.length_bytes]
  have hhyphen : compare (45 :: rest) (45 :: rest') = compare rest rest' := by
    simp only [List.compare_eq_compareLex, List.compareLex_cons_cons]
    rfl
  have hsplit : ∀ bs : List UInt8, bs.drop n = (bs.drop n).take k ++ bs.drop (n + k) := by
    intro bs
    rw [← List.drop_drop, List.take_append_drop]
  rw [compare_append (by rw [length_digitBytes, length_digitBytes, hlength]), compare_digitBytes,
    hhyphen, hrest, ← compare_append hlength, ← hsplit, ← hsplit]

theorem toUTF8_text (id : AccountId) : id.text.toUTF8.data.toList =
    digitBytes ((id.bytes.drop 0).take 4) ++ 45 :: (digitBytes ((id.bytes.drop 4).take 2) ++
      45 :: (digitBytes ((id.bytes.drop 6).take 2) ++
        45 :: (digitBytes ((id.bytes.drop 8).take 2) ++
          45 :: digitBytes (id.bytes.drop 10)))) := by
  have hhyphen : String.utf8EncodeChar '-' = [45] := by decide
  rw [text, Text.toUTF8_ofList]
  simp [chars, Text.bytes_cons, hhyphen, digitBytes]

/-- The text of an id has 36 bytes. -/
theorem length_toUTF8_text (id : AccountId) : id.text.toUTF8.data.toList.length = 36 := by
  rw [toUTF8_text]
  simp [length_digitBytes, id.length_bytes]

/-- The texts of ids, byte by byte, are in the order of the ids. -/
theorem compare_text (a b : AccountId) :
    compare a.text.toUTF8.data.toList b.text.toUTF8.data.toList = compare a b := by
  have hlast : compare (digitBytes (a.bytes.drop 10)) (digitBytes (b.bytes.drop 10)) =
      compare (a.bytes.drop 10) (b.bytes.drop 10) := compare_digitBytes _ _
  rw [toUTF8_text, toUTF8_text, compare_def]
  exact compare_group 0 4 (compare_group 4 2 (compare_group 6 2 (compare_group 8 2 hlast)))

end AccountId
end Friendship
