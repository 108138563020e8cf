import Friendship.Arithmetic
import Friendship.Text.Number

/-!
# Decimal digits that are read back

Digits spell the number that they have as digits to the base ten (`valueFrom_of_digits`), so a
number that is written, with zeros in front or not, is read back: `nat?_padded`.
-/
namespace Friendship.Text.Number

variable {c : Char} {cs : List Char}

theorem isDigit_eq (c : Char) : isDigit c = c.isDigit := by
  have hbounds : ('0' ≤ c ∧ c ≤ '9') ↔ c.isDigit = true := by
    simp [Char.isDigit, Char.le_def]
  unfold isDigit digit?
  split
  · exact (hbounds.1 ‹_›).symm
  · exact (Bool.eq_false_iff.2 (mt hbounds.2 ‹_›)).symm

theorem digit?_of_isDigit (h : isDigit c = true) : digit? c = some (c.toNat - '0'.toNat) := by
  unfold isDigit digit? at *
  split
  · rfl
  · simp_all

/-- Digits spell a number to the base ten. -/
theorem valueFrom_of_digits (h : ∀ c ∈ cs, isDigit c = true) (acc : Nat) :
    valueFrom acc cs = some (Nat.ofDigitChars 10 cs acc) := by
  induction cs generalizing acc with
  | nil => rfl
  | cons c cs ih =>
    rw [valueFrom, digit?_of_isDigit (h c List.mem_cons_self), Option.bind_some,
      ih fun d hd => h d (List.mem_cons_of_mem c hd), Nat.ofDigitChars_cons]

theorem isDigit_of_mem_natChars {n : Nat} (h : c ∈ natChars n) : isDigit c = true := by
  rw [isDigit_eq]
  exact Nat.isDigit_of_mem_toDigits (by decide) (by decide) h

theorem toNat_of_isDigit (h : isDigit c = true) : 48 ≤ c.toNat ∧ c.toNat ≤ 57 := by
  rw [isDigit_eq] at h
  simpa [Char.isDigit, UInt32.le_iff_toNat_le] using h

/-- A number but zero does not begin with a zero. -/
theorem head?_natChars_ne {n : Nat} (hn : n ≠ 0) : (natChars n).head? ≠ some '0' := by
  induction n using Nat.strongRecOn with
  | ind n ih =>
    rw [natChars, Nat.toDigits_eq_if (by decide)]
    split
    · rw [List.head?_cons]
      intro hzero
      exact hn (Nat.digitChar_eq_zero.1 (Option.some.inj hzero))
    · obtain ⟨c, cs, hfront⟩ :=
        List.exists_cons_of_ne_nil (Nat.toDigits_ne_nil : Nat.toDigits 10 (n / 10) ≠ [])
      have hhead := ih (n / 10) (by omega) (by omega)
      rw [natChars, hfront] at hhead
      rwa [hfront]

theorem isDigit_of_mem_padded {width n : Nat} (h : c ∈ padded width n) : isDigit c = true := by
  rcases List.mem_append.1 h with hzero | hdigit
  · obtain rfl := List.eq_of_mem_replicate hzero
    rfl
  · exact isDigit_of_mem_natChars hdigit

theorem padded_ne_nil (width n : Nat) : padded width n ≠ [] := by
  intro h
  exact Nat.toDigits_ne_nil (List.append_eq_nil_iff.1 h).2

/-- Zeros in front make a number no greater. -/
theorem ofDigitChars_padded (width n : Nat) : Nat.ofDigitChars 10 (padded width n) 0 = n := by
  unfold padded
  rw [Nat.ofDigitChars_append, Nat.ofDigitChars_replicate_zero, Nat.mul_zero,
    Nat.ofDigitChars_ten_toDigits]

theorem nat?_of_digits (h : ∀ c ∈ cs, isDigit c = true) (hne : cs ≠ []) :
    nat? cs = some (Nat.ofDigitChars 10 cs 0) := by
  cases cs with
  | nil => exact absurd rfl hne
  | cons c rest => exact valueFrom_of_digits h 0

/-- A number with zeros in front is read back. -/
theorem nat?_padded (width n : Nat) : nat? (padded width n) = some n := by
  rw [nat?_of_digits (fun _ => isDigit_of_mem_padded) (padded_ne_nil width n),
    ofDigitChars_padded]

/-- A number that is not too great has as many digits as wanted. -/
theorem length_padded {width n : Nat} (hwidth : 0 < width) (h : n < 10 ^ width) :
    (padded width n).length = width := by
  have hle := (Nat.length_toDigits_le_iff (by decide) hwidth).2 h
  simp only [padded, List.length_append, List.length_replicate]
  omega

theorem le_length_padded (width n : Nat) : width ≤ (padded width n).length := by
  simp only [padded, List.length_append, List.length_replicate]
  omega

end Friendship.Text.Number
