import Friendship.Proofs.Json.Strings

/-!
# Numbers of which only the form counts

A number that is read is skipped in the same way. One that is skipped but cannot be read has too
large an exponent, and reading it stops at its end or before one of its digits.
-/
namespace Friendship.Json.Reader

variable {c c' c₁ : Cursor} {positive : Bool} {significand : Nat} {exponent : Int} {v : Number}

theorem not_blank_of_isDigit {d : UInt8} (h : isDigit d = true) : isBlank d = false := by
  cases hblank : isBlank d with
  | false => rfl
  | true =>
    have hbyte : d = 32 ∨ d = 10 ∨ d = 9 ∨ d = 13 := by simpa [isBlank, or_assoc] using hblank
    rcases hbyte with rfl | rfl | rfl | rfl <;> exact absurd h (by decide)

/-- Reading stopped at a cursor, or before another digit. -/
def Among (c c' : Cursor) : Prop := c = c' ∨ ∃ d, c.rest.head? = some d ∧ isDigit d = true

/-- Behind some of the next digits there is another one, or all are behind. -/
theorem among_forward {n : Nat} (h : n ≤ (c.rest.takeWhile isDigit).length) :
    Among (c.forward n) (behind isDigit c) := by
  induction n generalizing c with
  | zero =>
    cases hrest : c.rest with
    | nil => exact Or.inl (by simp [Cursor.forward, behind, hrest, dropWhile])
    | cons b rest =>
      have hb : c.rest.head? = some b := by rw [hrest, List.head?_cons]
      by_cases hdigit : isDigit b = true
      · exact Or.inr ⟨b, hb, hdigit⟩
      · exact Or.inl (behind_eq_self hb (by simpa using hdigit)).symm
  | succ n ih =>
    cases hrest : c.rest with
    | nil => simp [hrest] at h
    | cons b rest =>
      have hb : c.rest.head? = some b := by rw [hrest, List.head?_cons]
      have hdigit : isDigit b = true := by
        cases hdigit : isDigit b with
        | true => rfl
        | false => simp [hrest, hdigit] at h
      have hlength : n ≤ (c.advance.rest.takeWhile isDigit).length := by
        simpa [Cursor.rest_advance, hrest, hdigit] using h
      rw [← behind_advance hb hdigit]
      exact ih hlength

theorem reads_scale (h : Reads (scale positive significand exponent) c v c') : c = c' := by
  simp only [scale] at h
  split at h
  · simp at h
  · split at h
    · split at h <;> simp_all
    · simp_all

theorem fails_scale (h : Fails (scale positive significand exponent) c c') : c = c' := by
  simp only [scale] at h
  split at h
  · simpa using h
  · split at h
    · split at h <;> simp_all
    · simp_all

/-! ### Exponents -/

/-- The cursor behind a sign, if there is one. -/
def behindSign (c : Cursor) : Cursor :=
  if c.rest.head?.any fun b => b == 43 || b == 45 then c.advance else c

/-- What is left behind of an exponent. -/
theorem reads_skipExponent {u : Unit} :
    Reads skipExponent c u c' ↔
      (behindSign c.advance).rest.head?.any isDigit ∧
        behind isDigit (behindSign c.advance).advance = c' := by
  simp only [skipExponent, behindSign, reads_bind, reads_skip, reads_peek]
  constructor
  · rintro ⟨_, _, rfl, _, _, ⟨rfl, rfl⟩, h⟩
    split at h
    · simp only [reads_bind, reads_skip, reads_next] at h
      obtain ⟨_, _, rfl, _, _, ⟨rfl, rfl⟩, h⟩ := h
      split at h <;> simp_all
    · simp only [reads_bind, reads_next] at h
      obtain ⟨_, _, ⟨rfl, rfl⟩, h⟩ := h
      split at h <;> simp_all
  · rintro ⟨hdigit, hend⟩
    refine ⟨(), _, rfl, _, _, ⟨rfl, rfl⟩, ?_⟩
    split
    · simp only [reads_bind, reads_skip, reads_next]
      exact ⟨(), _, rfl, _, _, ⟨rfl, rfl⟩, by simp_all⟩
    · simp only [reads_bind, reads_next]
      exact ⟨_, _, ⟨rfl, rfl⟩, by simp_all⟩

/-- The digits of an exponent, its sign being behind. -/
def exponentDigits (positive : Bool) (significand : Nat) (exponent : Int) (up : Bool) :
    Reader Number := do
  match ← next with
  | none => failHere .eofValue
  | some b =>
    if !isDigit b then failHere .invalidNumber
    else
      let digits ← peekWhile isDigit
      let step (state : Nat × Nat) (d : UInt8) : Nat × Nat :=
        if state.1 ≤ exponentMax then (10 * state.1 + digitValue d, state.2 + 1) else state
      let (n, count) := digits.foldl step (digitValue b, 0)
      if exponentMax < n then
        if significand ≠ 0 ∧ up then
          (digits.take count).forM fun _ => skip
          failHere .numberOutOfRange
        else
          skipWhile isDigit
          pure (.float (if positive then .zero else Decimal.Binary64.zero.neg))
      else
        skipWhile isDigit
        scale positive significand (if up then exponent + n else exponent - n)

/-- The sign settles which way the digits count. -/
theorem exponentPart_eq : exponentPart positive significand exponent = (do
    skip
    match ← peek with
    | some 43 => do skip; exponentDigits positive significand exponent true
    | some 45 => do skip; exponentDigits positive significand exponent false
    | _ => exponentDigits positive significand exponent true) := rfl

theorem reads_exponentDigits {up : Bool}
    (h : Reads (exponentDigits positive significand exponent up) c v c') :
    c.rest.head?.any isDigit ∧ behind isDigit c.advance = c' := by
  simp only [exponentDigits, reads_bind, reads_next] at h
  obtain ⟨_, _, ⟨rfl, rfl⟩, h⟩ := h
  split at h
  · simp at h
  · rename_i b hb
    split at h
    · simp at h
    · rename_i hdigit
      refine ⟨by simp_all, ?_⟩
      simp only [reads_bind, reads_peekWhile] at h
      obtain ⟨_, _, ⟨rfl, rfl⟩, h⟩ := h
      split at h
      · split at h
        · simp [reads_bind] at h
        · simp_all
      · simp only [reads_bind, reads_skipWhile] at h
        obtain ⟨_, _, rfl, h⟩ := h
        exact reads_scale h

theorem among_of_fails_exponentDigits {up : Bool} (hdigit : c.rest.head?.any isDigit)
    (h : Fails (exponentDigits positive significand exponent up) c c') :
    Among c' (behind isDigit c.advance) := by
  simp only [exponentDigits, fails_bind, reads_next, not_fails_next, false_or] at h
  obtain ⟨_, _, ⟨rfl, rfl⟩, h⟩ := h
  split at h
  · simp_all
  · rename_i b hb
    split at h
    · simp_all
    · simp only [fails_bind, reads_peekWhile, not_fails_peekWhile, false_or] at h
      obtain ⟨_, _, ⟨rfl, rfl⟩, h⟩ := h
      split at h
      · split at h
        · simp only [List.forM_eq_forM, fails_bind, fails_failHere] at h
          obtain h | ⟨_, _, hskips, rfl⟩ := h
          · exact absurd h (reads_skips (u := ()).2 rfl).not_fails
          · rw [← reads_skips.1 hskips]
            exact among_forward (List.take_sublist _ _).length_le
        · simp at h
      · simp only [fails_bind, reads_skipWhile, not_fails_skipWhile, false_or] at h
        obtain ⟨_, _, rfl, h⟩ := h
        exact Or.inl (fails_scale h).symm

/-- An exponent is its digits behind its sign. -/
theorem exists_resultAt_exponentPart (positive : Bool) (significand : Nat) (exponent : Int)
    (c : Cursor) :
    ∃ up, resultAt (exponentPart positive significand exponent) c =
      resultAt (exponentDigits positive significand exponent up) (behindSign c.advance) := by
  have hskip (d : Cursor) : resultAt skip d = (.ok (), d.advance) := rfl
  have hpeek (d : Cursor) : resultAt peek d = (.ok d.rest.head?, d) := rfl
  simp only [exponentPart_eq, resultAt_bind, hskip, hpeek, behindSign]
  split
  · rename_i hplus
    exact ⟨true, by simp [resultAt_bind, hskip, hplus]⟩
  · rename_i hminus
    exact ⟨false, by simp [resultAt_bind, hskip, hminus]⟩
  · rename_i hplus hminus
    refine ⟨true, ?_⟩
    rw [if_neg]
    cases hhead : c.advance.rest.head? <;> simp_all

/-- An exponent that is read is skipped in the same way. -/
theorem reads_skipExponent_of_exponentPart
    (h : Reads (exponentPart positive significand exponent) c v c') :
    Reads skipExponent c () c' := by
  obtain ⟨up, hresult⟩ := exists_resultAt_exponentPart positive significand exponent c
  rw [reads_skipExponent]
  exact reads_exponentDigits (hresult.symm.trans h)

theorem among_of_fails_exponentPart (hskip : Reads skipExponent c () c')
    (h : Fails (exponentPart positive significand exponent) c c₁) : Among c₁ c' := by
  obtain ⟨up, hresult⟩ := exists_resultAt_exponentPart positive significand exponent c
  obtain ⟨hdigit, rfl⟩ := reads_skipExponent.1 hskip
  obtain ⟨e, h⟩ := h
  exact among_of_fails_exponentDigits hdigit ⟨e, hresult.symm.trans h⟩

/-! ### Fractions -/

/-- What is skipped behind all digits of a number. -/
def skipAfterDigits : Reader Unit := do
  if (← peek).any fun b => b == 101 || b == 69 then skipExponent

/-- What is skipped behind the whole digits of a number. -/
def skipAfterWhole : Reader Unit := do
  if (← peek) = some 46 then
    skip
    if (← peekWhile isDigit) = [] then failNext .invalidNumber
    skipWhile isDigit
  if (← peek).any fun b => b == 101 || b == 69 then skipExponent

theorem reads_skipAfterDigits {u : Unit} :
    Reads skipAfterDigits c u c' ↔
      if c.rest.head?.any fun b => b == 101 || b == 69 then Reads skipExponent c u c'
      else c = c' := by
  simp only [skipAfterDigits, reads_bind, reads_peek]
  constructor
  · rintro ⟨_, _, ⟨rfl, rfl⟩, h⟩
    split at h <;> simp_all
  · intro h
    refine ⟨_, _, ⟨rfl, rfl⟩, ?_⟩
    split at h <;> simp_all

/-- What comes behind all digits is skipped in each case by itself. -/
theorem skipAfterWhole_eq : skipAfterWhole = (do
    if (← peek) = some 46 then
      skip
      if (← peekWhile isDigit) = [] then
        failNext .invalidNumber
        skipWhile isDigit
        skipAfterDigits
      else
        skipWhile isDigit
        skipAfterDigits
    else skipAfterDigits) := rfl

theorem reads_skipAfterWhole {u : Unit} :
    Reads skipAfterWhole c u c' ↔
      if c.rest.head? = some 46 then
        c.advance.rest.takeWhile isDigit ≠ [] ∧
          Reads skipAfterDigits (behind isDigit c.advance) u c'
      else Reads skipAfterDigits c u c' := by
  simp only [skipAfterWhole_eq, reads_bind, reads_peek]
  constructor
  · rintro ⟨_, _, ⟨rfl, rfl⟩, h⟩
    split at h
    · rename_i hpoint
      simp only [reads_bind, reads_skip, reads_peekWhile] at h
      obtain ⟨_, _, rfl, _, _, ⟨rfl, rfl⟩, h⟩ := h
      split at h
      · simp [reads_bind] at h
      · rename_i hdigits
        simp only [reads_bind, reads_skipWhile] at h
        obtain ⟨_, _, rfl, h⟩ := h
        rw [if_pos hpoint]
        exact ⟨hdigits, h⟩
    · rename_i hpoint
      rwa [if_neg hpoint]
  · intro h
    refine ⟨_, _, ⟨rfl, rfl⟩, ?_⟩
    split at h
    · rename_i hpoint
      rw [if_pos hpoint]
      simp only [reads_bind, reads_skip, reads_peekWhile]
      refine ⟨(), _, rfl, _, _, ⟨rfl, rfl⟩, ?_⟩
      rw [if_neg h.1]
      exact reads_bind.2 ⟨(), _, reads_skipWhile.2 rfl, h.2⟩
    · rename_i hpoint
      rwa [if_neg hpoint]

theorem reads_skipAfterDigits_of_afterDigits
    (h : Reads (afterDigits positive significand exponent) c v c') :
    Reads skipAfterDigits c () c' := by
  simp only [afterDigits, reads_bind, reads_peek] at h
  obtain ⟨_, _, ⟨rfl, rfl⟩, h⟩ := h
  rw [reads_skipAfterDigits]
  split at h
  · simp_all [reads_skipExponent_of_exponentPart h]
  · simp_all [reads_skipExponent_of_exponentPart h]
  · rename_i hlower hupper
    rw [if_neg]
    · exact reads_scale h
    · cases hhead : c.rest.head? <;> simp_all

theorem among_of_fails_afterDigits (hskip : Reads skipAfterDigits c () c')
    (h : Fails (afterDigits positive significand exponent) c c₁) : Among c₁ c' := by
  simp only [afterDigits, fails_bind, reads_peek, not_fails_peek, false_or] at h
  obtain ⟨_, _, ⟨rfl, rfl⟩, h⟩ := h
  rw [reads_skipAfterDigits] at hskip
  split at h
  · rename_i hlower
    exact among_of_fails_exponentPart (by simpa [hlower] using hskip) h
  · rename_i hupper
    exact among_of_fails_exponentPart (by simpa [hupper] using hskip) h
  · rename_i hlower hupper
    rw [if_neg] at hskip
    · exact Or.inl ((fails_scale h).symm.trans hskip)
    · cases hhead : c.rest.head? <;> simp_all

theorem reads_fractionPart (h : Reads (fractionPart positive significand exponent) c v c') :
    c.advance.rest.takeWhile isDigit ≠ [] ∧
      Reads skipAfterDigits (behind isDigit c.advance) () c' := by
  simp only [fractionPart, reads_bind, reads_skip, reads_peekWhile, reads_skipWhile] at h
  obtain ⟨_, _, rfl, _, _, ⟨rfl, rfl⟩, _, _, rfl, h⟩ := h
  split at h
  · simp only [reads_bind, reads_peek] at h
    obtain ⟨_, _, ⟨rfl, rfl⟩, h⟩ := h
    split at h <;> simp [reads_bind] at h
  · rename_i hdigits
    exact ⟨hdigits, reads_skipAfterDigits_of_afterDigits h⟩

theorem among_of_fails_fractionPart (hdigits : c.advance.rest.takeWhile isDigit ≠ [])
    (hskip : Reads skipAfterDigits (behind isDigit c.advance) () c')
    (h : Fails (fractionPart positive significand exponent) c c₁) : Among c₁ c' := by
  simp only [fractionPart, fails_bind, reads_skip, reads_peekWhile, reads_skipWhile,
    not_fails_skip, not_fails_peekWhile, not_fails_skipWhile, false_or] at h
  obtain ⟨_, _, rfl, _, _, ⟨rfl, rfl⟩, _, _, rfl, h⟩ := h
  rw [if_neg hdigits] at h
  exact among_of_fails_afterDigits hskip h

/-! ### Whole numbers -/

theorem reads_skipAfterWhole_of_afterWhole (h : Reads (afterWhole positive significand) c v c') :
    Reads skipAfterWhole c () c' := by
  simp only [afterWhole, reads_bind, reads_peek] at h
  obtain ⟨_, _, ⟨rfl, rfl⟩, h⟩ := h
  rw [reads_skipAfterWhole]
  split at h
  · rename_i hpoint
    rw [if_pos hpoint]
    exact reads_fractionPart h
  · rename_i hlower
    rw [if_neg (by simp [hlower]), reads_skipAfterDigits, if_pos (by simp [hlower])]
    exact reads_skipExponent_of_exponentPart h
  · rename_i hupper
    rw [if_neg (by simp [hupper]), reads_skipAfterDigits, if_pos (by simp [hupper])]
    exact reads_skipExponent_of_exponentPart h
  · rename_i hpoint hlower hupper
    have hsame : c = c' := by
      split at h
      · exact (reads_pure.1 h).2
      · split at h <;> exact (reads_pure.1 h).2
    rw [if_neg hpoint, reads_skipAfterDigits, if_neg]
    · exact hsame
    · cases hhead : c.rest.head? <;> simp_all

theorem among_of_fails_afterWhole (hskip : Reads skipAfterWhole c () c')
    (h : Fails (afterWhole positive significand) c c₁) : Among c₁ c' := by
  simp only [afterWhole, fails_bind, reads_peek, not_fails_peek, false_or] at h
  obtain ⟨_, _, ⟨rfl, rfl⟩, h⟩ := h
  rw [reads_skipAfterWhole] at hskip
  split at h
  · rename_i hpoint
    rw [if_pos hpoint] at hskip
    exact among_of_fails_fractionPart hskip.1 hskip.2 h
  · rename_i hlower
    rw [if_neg (by simp [hlower]), reads_skipAfterDigits, if_pos (by simp [hlower])] at hskip
    exact among_of_fails_exponentPart hskip h
  · rename_i hupper
    rw [if_neg (by simp [hupper]), reads_skipAfterDigits, if_pos (by simp [hupper])] at hskip
    exact among_of_fails_exponentPart hskip h
  · split at h
    · simp at h
    · split at h <;> simp at h

/-- A number is skipped by its first digit, and what comes behind the whole digits in each case by
itself. -/
theorem skipNumber_eq : skipNumber = (do
    match ← next with
    | none => failHere .invalidNumber
    | some b =>
      if b = 48 then
        if (← peek).any isDigit then
          failNext .invalidNumber
          skipAfterWhole
        else skipAfterWhole
      else if isDigit b then
        skipWhile isDigit
        skipAfterWhole
      else
        failHere .invalidNumber
        skipAfterWhole) := rfl

theorem reads_skipNumber {u : Unit} :
    Reads skipNumber c u c' ↔ ∃ b, c.rest.head? = some b ∧
      (b = 48 ∧ ¬ c.advance.rest.head?.any isDigit ∧ Reads skipAfterWhole c.advance u c' ∨
        b ≠ 48 ∧ isDigit b ∧ Reads skipAfterWhole (behind isDigit c.advance) u c') := by
  simp only [skipNumber_eq, reads_bind, reads_next]
  constructor
  · rintro ⟨_, _, ⟨rfl, rfl⟩, h⟩
    split at h
    · simp at h
    · rename_i b hb
      refine ⟨b, hb, ?_⟩
      split at h
      · rename_i hzero
        simp only [reads_bind, reads_peek] at h
        obtain ⟨_, _, ⟨rfl, rfl⟩, h⟩ := h
        split at h
        · simp [reads_bind] at h
        · rename_i hdigit
          exact Or.inl ⟨hzero, hdigit, h⟩
      · rename_i hzero
        split at h
        · rename_i hdigit
          simp only [reads_bind, reads_skipWhile] at h
          obtain ⟨_, _, rfl, h⟩ := h
          exact Or.inr ⟨hzero, hdigit, h⟩
        · simp [reads_bind] at h
  · rintro ⟨b, hb, h⟩
    refine ⟨_, _, ⟨rfl, rfl⟩, ?_⟩
    rw [hb]
    rcases h with ⟨hzero, hdigit, h⟩ | ⟨hzero, hdigit, h⟩
    · simp only [if_pos hzero, reads_bind, reads_peek]
      refine ⟨_, _, ⟨rfl, rfl⟩, ?_⟩
      rwa [if_neg hdigit]
    · simp only [if_neg hzero, if_pos hdigit, reads_bind, reads_skipWhile]
      exact ⟨(), _, rfl, h⟩

/-- A number that is read is skipped in the same way. -/
theorem reads_skipNumber_of_number (h : Reads (number positive) c v c') :
    Reads skipNumber c () c' := by
  simp only [number, reads_bind, reads_next] at h
  obtain ⟨_, _, ⟨rfl, rfl⟩, h⟩ := h
  rw [reads_skipNumber]
  split at h
  · simp at h
  · rename_i b hb
    refine ⟨b, hb, ?_⟩
    split at h
    · rename_i hzero
      simp only [reads_bind, reads_peek] at h
      obtain ⟨_, _, ⟨rfl, rfl⟩, h⟩ := h
      split at h
      · simp at h
      · rename_i hdigit
        exact Or.inl ⟨hzero, hdigit, reads_skipAfterWhole_of_afterWhole h⟩
    · rename_i hzero
      split at h
      · rename_i hdigit
        refine Or.inr ⟨hzero, hdigit, ?_⟩
        simp only [reads_bind, reads_peekWhile, reads_skipWhile] at h
        obtain ⟨_, _, ⟨rfl, rfl⟩, _, _, rfl, h⟩ := h
        split at h
        · exact reads_skipAfterWhole_of_afterWhole h
        · simp only [reads_bind, reads_peek] at h
          obtain ⟨_, _, ⟨rfl, rfl⟩, h⟩ := h
          rw [reads_skipAfterWhole]
          split at h
          · rename_i hpoint
            rw [if_pos hpoint]
            exact reads_fractionPart h
          · rename_i hpoint
            rw [if_neg hpoint]
            exact reads_skipAfterDigits_of_afterDigits h
      · simp at h

theorem among_of_fails_number (hskip : Reads skipNumber c () c')
    (h : Fails (number positive) c c₁) : Among c₁ c' := by
  obtain ⟨b, hb, hskip⟩ := reads_skipNumber.1 hskip
  simp only [number, fails_bind, reads_next, not_fails_next, false_or] at h
  obtain ⟨_, _, ⟨rfl, rfl⟩, h⟩ := h
  rw [hb] at h
  obtain ⟨hzero, hdigit, hskip⟩ | ⟨hzero, hdigit, hskip⟩ := hskip
  · simp only [if_pos hzero, fails_bind, reads_peek, not_fails_peek, false_or] at h
    obtain ⟨_, _, ⟨rfl, rfl⟩, h⟩ := h
    rw [if_neg hdigit] at h
    exact among_of_fails_afterWhole hskip h
  · simp only [if_neg hzero, if_pos hdigit, fails_bind, reads_peekWhile, reads_skipWhile,
      not_fails_peekWhile, not_fails_skipWhile, false_or] at h
    obtain ⟨_, _, ⟨rfl, rfl⟩, _, _, rfl, h⟩ := h
    split at h
    · exact among_of_fails_afterWhole hskip h
    · simp only [fails_bind, reads_peek, not_fails_peek, false_or] at h
      obtain ⟨_, _, ⟨rfl, rfl⟩, h⟩ := h
      rw [reads_skipAfterWhole] at hskip
      split at h
      · rename_i hpoint
        rw [if_pos hpoint] at hskip
        exact among_of_fails_fractionPart hskip.1 hskip.2 h
      · rename_i hpoint
        rw [if_neg hpoint] at hskip
        exact among_of_fails_afterDigits hskip h

/-- Reading a number that can be skipped stops at its end or before one of its digits. -/
theorem among_of_stops_number (hskip : Reads skipNumber c () c')
    (h : Stops (number positive) c c₁) : Among c₁ c' := by
  obtain ⟨v, h⟩ | h := h
  · exact Or.inl ((reads_skipNumber_of_number h).unique hskip).2
  · exact among_of_fails_number hskip h

end Friendship.Json.Reader
