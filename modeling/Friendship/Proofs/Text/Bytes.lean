import Friendship.Text.Utf8

/-!
# Texts and their bytes

The bytes of a text are those of its characters, one character after the other: `toUTF8_ofList`. An
ASCII character is one byte, its code (`utf8EncodeChar_of_ascii`), and no byte of another character
is one of an ASCII character (`ascii_lt_of_mem`). The bytes of a text are read as that text:
`text?_bytes`.
-/
namespace Friendship.Text

/-- The bytes of characters. -/
def bytes (cs : List Char) : List UInt8 := cs.flatMap String.utf8EncodeChar

@[simp] theorem bytes_nil : bytes [] = [] := rfl

@[simp] theorem bytes_append (cs ds : List Char) : bytes (cs ++ ds) = bytes cs ++ bytes ds :=
  List.flatMap_append

theorem bytes_cons (c : Char) (cs : List Char) :
    bytes (c :: cs) = String.utf8EncodeChar c ++ bytes cs := rfl

theorem toUTF8_ofList (cs : List Char) : (String.ofList cs).toUTF8.data.toList = bytes cs := by
  simp [bytes, String.ofList, List.utf8Encode]

theorem toUTF8_eq_bytes (s : String) : s.toUTF8.data.toList = bytes s.toList := by
  rw [← toUTF8_ofList, String.ofList_toList]

theorem toNat_ofNat_byte (b : UInt8) : (Char.ofNat b.toNat).toNat = b.toNat := by
  have hvalid : b.toNat.isValidChar := Or.inl (by have := b.toNat_lt; omega)
  rw [Char.ofNat, dif_pos hvalid]
  rfl

variable {c : Char}

theorem utf8EncodeChar_of_ascii (h : c.toNat ≤ 0x7f) :
    String.utf8EncodeChar c = [UInt8.ofNat c.toNat] := by
  have hcode : c.val.toNat ≤ 127 := h
  unfold String.utf8EncodeChar
  dsimp only
  rw [if_pos hcode]
  rfl

theorem bytes_cons_ascii (h : c.toNat ≤ 0x7f) (cs : List Char) :
    bytes (c :: cs) = UInt8.ofNat c.toNat :: bytes cs := by
  rw [bytes_cons, utf8EncodeChar_of_ascii h, List.singleton_append]

theorem length_le_length_bytes (cs : List Char) : cs.length ≤ (bytes cs).length := by
  induction cs with
  | nil => exact Nat.zero_le _
  | cons c cs ih =>
    have hpos : 0 < (String.utf8EncodeChar c).length := by
      rw [String.length_utf8EncodeChar]
      exact c.utf8Size_pos
    simp only [bytes_cons, List.length_append, List.length_cons]
    omega

/-- The bytes of a character that is not ASCII are greater than those of ASCII characters. -/
theorem ascii_lt_of_mem {b : UInt8} (h : 0x7f < c.toNat) (hb : b ∈ String.utf8EncodeChar c) :
    0x7f < b := by
  have hcode : ¬ c.val.toNat ≤ 127 := Nat.not_le.2 h
  have hlt : ∀ n, 127 < n → n < 256 → 0x7f < UInt8.ofNat n := by
    intro n hlow hhigh
    rw [UInt8.lt_iff_toNat_lt, UInt8.toNat_ofNat_of_lt' hhigh]
    exact hlow
  unfold String.utf8EncodeChar at hb
  dsimp only at hb
  rw [if_neg hcode] at hb
  split at hb
  · simp only [List.mem_cons, List.not_mem_nil, or_false] at hb
    obtain rfl | rfl := hb <;> exact hlt _ (by omega) (by omega)
  · split at hb
    · simp only [List.mem_cons, List.not_mem_nil, or_false] at hb
      obtain rfl | rfl | rfl := hb <;> exact hlt _ (by omega) (by omega)
    · simp only [List.mem_cons, List.not_mem_nil, or_false] at hb
      obtain rfl | rfl | rfl | rfl := hb <;> exact hlt _ (by omega) (by omega)

/-- The bytes of a text are read as the text. -/
theorem text?_bytes (s : String) : Utf8.text? (bytes s.toList) = some s := by
  have hbytes : (⟨s.toUTF8.data.toList.toArray⟩ : ByteArray) = s.toByteArray := rfl
  rw [← toUTF8_eq_bytes]
  unfold Utf8.text? String.fromUTF8?
  rw [hbytes, dif_pos s.isValidUTF8]
  rfl

end Friendship.Text
