import Friendship.Proofs.Text.Decimal
import Friendship.Proofs.Time.Calendar
import Friendship.Time.Instant

/-!
# The text of an instant

Each part of the text of an instant is read back where it stands, whatever comes after it, and so
the instant is read from its text: `read?_text`. That includes leap seconds and years of more than
four digits or before the year 0.
-/
namespace Friendship.Instant

open Text.Number

variable {rest : List Char}

@[simp] theorem expect?_cons (c : Char) (rest : List Char) : expect? c (c :: rest) = some rest := by
  simp [expect?]

/-- A number of a fixed width is read back. -/
theorem fixed?_padded {width n : Nat} (hwidth : 0 < width) (h : n < 10 ^ width)
    (rest : List Char) : fixed? width (padded width n ++ rest) = some (n, rest) := by
  have hlength := length_padded hwidth h
  unfold fixed?
  rw [List.take_left' hlength, List.drop_left' hlength, if_pos hlength, nat?_padded]
  rfl

/-- Digits end where no digit comes. -/
theorem takeWhile_padded (width n : Nat) {c : Char} (hc : isDigit c = false) (rest : List Char) :
    (padded width n ++ c :: rest).takeWhile isDigit = padded width n ∧
      (padded width n ++ c :: rest).dropWhile isDigit = c :: rest := by
  have hdigits : ∀ d ∈ padded width n, isDigit d = true := fun _ => isDigit_of_mem_padded
  rw [List.takeWhile_append_of_pos hdigits, List.dropWhile_append_of_pos hdigits]
  simp [hc]

theorem year?_yearChars (y : Int) (rest : List Char) :
    year? (yearChars y ++ '-' :: rest) = some (y, '-' :: rest) := by
  unfold yearChars
  split
  · rename_i hshort
    have hfixed := @fixed?_padded 4 y.toNat (by decide) (by omega) ('-' :: rest)
    have hy : (y.toNat : Int) = y := Int.toNat_of_nonneg hshort.1
    have hdigits : ∀ c ∈ padded 4 y.toNat, isDigit c = true := fun _ => isDigit_of_mem_padded
    cases hpadded : padded 4 y.toNat with
    | nil => exact absurd hpadded (padded_ne_nil _ _)
    | cons c cs =>
      have hc : isDigit c = true := hdigits c (hpadded ▸ List.mem_cons_self)
      rw [hpadded] at hfixed
      unfold year?
      split
      · rename_i hsign
        obtain rfl := (List.cons.inj hsign).1
        exact absurd hc (by decide)
      · rename_i hsign
        obtain rfl := (List.cons.inj hsign).1
        exact absurd hc (by decide)
      · rw [hfixed]
        exact congrArg (fun y => some (y, '-' :: rest)) hy
  · have hend : isDigit '-' = false := rfl
    split
    · obtain ⟨htake, hdrop⟩ := takeWhile_padded 4 y.toNat hend rest
      have hy : (y.toNat : Int) = y := Int.toNat_of_nonneg ‹_›
      simp only [List.cons_append, year?, htake, hdrop, if_pos (le_length_padded 4 _), nat?_padded]
      exact congrArg (fun y => some (y, '-' :: rest)) hy
    · obtain ⟨htake, hdrop⟩ := takeWhile_padded 4 (-y).toNat hend rest
      have hy : -((-y).toNat : Int) = y := by omega
      simp only [List.cons_append, year?, htake, hdrop, if_pos (le_length_padded 4 _), nat?_padded]
      exact congrArg (fun y => some (y, '-' :: rest)) hy

/-- Digits after a point are read as nanoseconds. -/
theorem fraction?_padded {width n : Nat} (hwidth : 0 < width ∧ width ≤ 9) (h : n < 10 ^ width) :
    fraction? ('.' :: padded width n ++ ['Z']) = some (n * 10 ^ (9 - width), ['Z']) := by
  obtain ⟨htake, hdrop⟩ := takeWhile_padded width n (c := 'Z') rfl []
  have hlength := length_padded hwidth.1 h
  have hnine : (padded width n).take 9 = padded width n := List.take_of_length_le (by omega)
  have hdigits : ∀ c ∈ padded width n ++ List.replicate (9 - width) '0', isDigit c = true := by
    intro c hc
    rcases List.mem_append.1 hc with hc | hc
    · exact isDigit_of_mem_padded hc
    · obtain rfl := List.eq_of_mem_replicate hc
      rfl
  have hne : padded width n ++ List.replicate (9 - width) '0' ≠ [] := by
    simp [padded_ne_nil]
  simp only [List.cons_append, fraction?, htake, hdrop, if_neg (padded_ne_nil width n), hnine,
    hlength, nat?_of_digits hdigits hne, Nat.ofDigitChars_append, ofDigitChars_padded,
    Nat.ofDigitChars_replicate_zero, Option.map_some, Nat.mul_comm]

/-- The digits that are left out are zeros. -/
theorem fraction?_fractionChars {nano : Nat} (h : nano < 1000000000) :
    fraction? (fractionChars nano ++ ['Z']) = some (nano, ['Z']) := by
  unfold fractionChars
  split
  · subst nano
    rfl
  · split
    · rw [fraction?_padded (by decide) (by omega)]
      have hzeros : nano / 1000000 * 10 ^ (9 - 3) = nano := by omega
      rw [hzeros]
    · split
      · rw [fraction?_padded (by decide) (by omega)]
        have hzeros : nano / 1000 * 10 ^ (9 - 6) = nano := by omega
        rw [hzeros]
      · rw [fraction?_padded (by decide) (by omega)]
        rw [Nat.sub_self, Nat.pow_zero, Nat.mul_one]

theorem day_le_of_isValid {date : Time.Date} (h : date.isValid = true) :
    date.month ≤ 12 ∧ date.day ≤ 31 := by
  have hlength : Time.Date.daysInMonth date.year date.month ≤ 31 := by
    unfold Time.Date.daysInMonth
    split
    · split <;> decide
    · split <;> decide
  simp only [Time.Date.isValid, Bool.and_eq_true, decide_eq_true_eq] at h
  omega

/-- An instant is read back from its characters. -/
theorem readChars?_chars (t : Instant) : readChars? t.chars = some t := by
  obtain ⟨days, hdays⟩ : ∃ days, days = t.second / 86400 := ⟨_, rfl⟩
  obtain ⟨clock, hclock⟩ : ∃ clock, clock = (t.second % 86400).toNat := ⟨_, rfl⟩
  obtain ⟨leap, hleap⟩ : ∃ leap, leap = t.nano / 1000000000 := ⟨_, rfl⟩
  have hvalid := Time.Date.isValid_ofDays days
  have hback := Time.Date.toDays_ofDays days
  simp only [chars, ← hdays, ← hclock, ← hleap, List.append_assoc, List.cons_append]
  generalize Time.Date.ofDays days = date at hvalid hback
  obtain ⟨hmonth, hday⟩ := day_le_of_isValid hvalid
  have hnano := t.nano_lt
  -- Only behind the last second of a minute the nanoseconds tell a leap second.
  have hsecond : clock % 60 + leap ≤ 60 ∧ (clock % 60 + leap) / 60 = leap := by omega
  have htwo : ∀ n < 100, ∀ rest, fixed? 2 (padded 2 n ++ rest) = some (n, rest) :=
    fun n hn rest => fixed?_padded (by decide) hn rest
  unfold readChars?
  refine Option.bind_eq_some_iff.2 ⟨_, year?_yearChars _ _, ?_⟩
  refine Option.bind_eq_some_iff.2 ⟨_, expect?_cons _ _, ?_⟩
  refine Option.bind_eq_some_iff.2 ⟨_, htwo _ (by omega) _, ?_⟩
  refine Option.bind_eq_some_iff.2 ⟨_, expect?_cons _ _, ?_⟩
  refine Option.bind_eq_some_iff.2 ⟨_, htwo _ (by omega) _, ?_⟩
  refine Option.bind_eq_some_iff.2 ⟨_, rfl, ?_⟩
  refine Option.bind_eq_some_iff.2 ⟨_, htwo _ (by omega) _, ?_⟩
  refine Option.bind_eq_some_iff.2 ⟨_, expect?_cons _ _, ?_⟩
  refine Option.bind_eq_some_iff.2 ⟨_, htwo _ (by omega) _, ?_⟩
  refine Option.bind_eq_some_iff.2 ⟨_, expect?_cons _ _, ?_⟩
  refine Option.bind_eq_some_iff.2 ⟨_, htwo _ (by omega) _, ?_⟩
  refine Option.bind_eq_some_iff.2 ⟨_, fraction?_fractionChars (by omega), ?_⟩
  refine Option.bind_eq_some_iff.2 ⟨_, rfl, ?_⟩
  have hwithin : ¬ ((!date.isValid) = true ∨ 24 ≤ clock / 3600 ∨ 60 ≤ clock / 60 % 60 ∨
      60 < clock % 60 + leap) := by
    simp only [hvalid, Bool.not_true, Bool.false_eq_true, false_or]
    omega
  have hclockback :
      clock / 3600 * 3600 + clock / 60 % 60 * 60 + (clock % 60 + leap - leap) = clock := by omega
  have hsecondback : days * 86400 + (clock : Int) - 0 = t.second := by omega
  have hnanoback : t.nano % 1000000000 + leap * 1000000000 = t.nano := by omega
  dsimp only
  rw [if_neg hwithin, hsecond.2, hclockback, hback, hsecondback, hnanoback, make?, dif_pos hnano]

theorem read?_text (t : Instant) : read? t.text = some t := by
  rw [read?, text, String.toList_ofList, readChars?_chars]

/-- In the middle of a leap second. -/
example : (⟨78796799, 1500000000, by decide⟩ : Instant).text = "1972-06-30T23:59:60.500Z" := by
  decide

end Friendship.Instant
