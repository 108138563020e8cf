import Friendship.Proofs.Json.Quotes

/-!
# Values that are read can be skipped

A string or a whole number that is read ends where it ends when it is skipped:
`reads_skipValue_of_anyString`, `reads_skipValue_of_int64`. What separates the members of an object
stands outside of strings.
-/
namespace Friendship.Json.Reader

variable {α : Type} {c c' : Cursor} {u : Unit}

/-! ### The first byte of a value -/

theorem reads_valueStart {b : UInt8} :
    Reads valueStart c b c' ↔
      (behind isBlank c).rest.head? = some b ∧ behind isBlank c = c' := by
  simp only [valueStart, reads_bind, reads_afterBlanks]
  constructor
  · rintro ⟨_, _, ⟨rfl, rfl⟩, h⟩
    split at h
    · simp at h
    · simp_all
  · rintro ⟨hb, hend⟩
    exact ⟨_, _, ⟨rfl, rfl⟩, by rw [hb]; exact reads_pure.2 ⟨rfl, hend⟩⟩

theorem not_reads_mismatch {expected : String} {a : α} : ¬ Reads (mismatch expected) c a c' := by
  simp [mismatch, reads_bind]

/-- Nothing is skipped without a piece; nothing is awaited after the last. -/
theorem exists_of_reads_skipAwaited {fuel : Nat} {awaited : Awaited}
    (h : Reads (skipAwaited fuel awaited) c u c') :
    ∃ o c₁, Reads (skipStep awaited) c o c₁ ∧
      (o = none → c₁ = c') ∧
      ∀ awaited', o = some awaited' → ∃ fuel', Reads (skipAwaited fuel' awaited') c₁ u c' := by
  cases fuel with
  | zero => simp [skipAwaited] at h
  | succ fuel =>
    simp only [skipAwaited, reads_bind] at h
    obtain ⟨o, c₁, hstep, h⟩ := h
    refine ⟨o, c₁, hstep, ?_, ?_⟩
    · rintro rfl
      exact (reads_pure.1 h).2
    · rintro awaited' rfl
      exact ⟨fuel, h⟩

/-- A value that is one piece is skipped at once. -/
theorem Piece.reads_skipValue (h : Piece [] (behind isBlank c) none c') :
    Reads skipValue c () c' := by
  simp only [skipValue, reads_bind, reads_get, skipAwaited]
  exact ⟨_, _, ⟨rfl, rfl⟩, none, c', reads_skipStep_value.2 h, reads_pure.2 ⟨rfl, rfl⟩⟩

/-- A value begins neither with a comma nor with the end of an object. -/
theorem start_of_reads_skipStep {outer : List Frame} {o : Option Awaited}
    (h : Reads (skipStep (.value outer)) c o c') :
    ∃ b, (behind isBlank c).rest.head? = some b ∧ b ≠ ascii ',' ∧ b ≠ ascii '\x7d' := by
  simp only [skipStep, reads_bind, reads_afterBlanks] at h
  obtain ⟨_, _, ⟨rfl, rfl⟩, h⟩ := h
  split at h
  · simp at h
  · rename_i b hb
    refine ⟨b, hb, ?_, ?_⟩
    · rintro rfl
      exact not_reads_failNext h
    · rintro rfl
      exact not_reads_failNext h

/-- A value that is no list and no object is one piece. -/
theorem piece_of_reads_skipValue {b : UInt8} (hb : (behind isBlank c).rest.head? = some b)
    (hlist : b ≠ ascii '[') (hobject : b ≠ ascii '\x7b') (h : Reads skipValue c () c') :
    Piece [] (behind isBlank c) none c' := by
  simp only [skipValue, reads_bind, reads_get] at h
  obtain ⟨_, _, ⟨rfl, rfl⟩, h⟩ := h
  obtain ⟨o, c₁, hstep, hend, -⟩ := exists_of_reads_skipAwaited h
  have hpiece := reads_skipStep_value.1 hstep
  have hnone : o = none := by
    cases hpiece with
    | number | literal | string => rfl
    | opens frame hopen =>
      rw [hb, Option.some.injEq] at hopen
      cases frame
      · exact absurd hopen hlist
      · exact absurd hopen hobject
  subst hnone
  exact hend rfl ▸ hpiece

/-! ### Lists and objects that are skipped -/

/-- A list or object is skipped from its first byte on. -/
theorem exists_of_reads_skipValue (frame : Frame)
    (hb : (behind isBlank c).rest.head? = some frame.opener) (h : Reads skipValue c u c') :
    ∃ o c₁, Reads (skipStep (.more frame [] false)) (behind isBlank c).advance o c₁ ∧
      (o = none → c₁ = c') ∧
      ∀ awaited, o = some awaited → ∃ fuel, Reads (skipAwaited fuel awaited) c₁ u c' := by
  simp only [skipValue, reads_bind, reads_get] at h
  obtain ⟨_, _, ⟨rfl, rfl⟩, h⟩ := h
  obtain ⟨o, c₁, hstep, -, hrest⟩ := exists_of_reads_skipAwaited h
  obtain ⟨rfl, rfl⟩ := (reads_skipStep_value.1 hstep).eq_of_opener hb
  obtain ⟨fuel, hmore⟩ := hrest _ rfl
  exact exists_of_reads_skipAwaited hmore

/-- A list that is skipped is empty or goes on with a value. -/
theorem start_of_reads_skipValue_list (hb : (behind isBlank c).rest.head? = some (ascii '['))
    (h : Reads skipValue c u c') :
    ∃ b, (behind isBlank (behind isBlank c).advance).rest.head? = some b ∧
      (b = ascii ']' ∧ (behind isBlank (behind isBlank c).advance).advance = c' ∨
        b ≠ ascii ']' ∧ b ≠ ascii ',' ∧ b ≠ ascii '\x7d') := by
  obtain ⟨o, c₁, hstep, hend, hrest⟩ := exists_of_reads_skipValue .list hb h
  simp only [skipStep, reads_bind, reads_afterBlanks] at hstep
  obtain ⟨_, _, ⟨rfl, rfl⟩, hstep⟩ := hstep
  split at hstep
  · simp at hstep
  · rename_i b hhead
    refine ⟨b, hhead, ?_⟩
    rw [if_neg (by simp)] at hstep
    split at hstep
    · rename_i hcloser
      simp only [reads_bind, reads_skip, reads_pure] at hstep
      obtain ⟨_, _, rfl, rfl, rfl⟩ := hstep
      exact Or.inl ⟨hcloser, hend rfl⟩
    · rename_i hcloser
      obtain ⟨rfl, rfl⟩ := reads_pure.1 hstep
      obtain ⟨fuel, hvalue⟩ := hrest _ rfl
      obtain ⟨o, c₂, hfirst, -, -⟩ := exists_of_reads_skipAwaited hvalue
      obtain ⟨b', hb', hcomma, hbrace⟩ := start_of_reads_skipStep hfirst
      rw [behind_behind, hhead] at hb'
      obtain rfl := Option.some.inj hb'
      exact Or.inr ⟨hcloser, hcomma, hbrace⟩

/-- An object that is skipped is empty or goes on with a name. -/
theorem start_of_reads_skipValue_object
    (hb : (behind isBlank c).rest.head? = some (ascii '\x7b')) (h : Reads skipValue c u c') :
    ∃ b, (behind isBlank (behind isBlank c).advance).rest.head? = some b ∧
      (b = ascii '\x7d' ∧ (behind isBlank (behind isBlank c).advance).advance = c' ∨
        b = ascii '"') := by
  obtain ⟨o, c₁, hstep, hend, -⟩ := exists_of_reads_skipValue .object hb h
  simp only [skipStep, reads_bind, reads_afterBlanks] at hstep
  obtain ⟨_, _, ⟨rfl, rfl⟩, hstep⟩ := hstep
  split at hstep
  · simp at hstep
  · rename_i b hhead
    refine ⟨b, hhead, ?_⟩
    rw [if_neg (by simp)] at hstep
    split at hstep
    · rename_i hcloser
      simp only [reads_bind, reads_skip, reads_pure] at hstep
      obtain ⟨_, _, rfl, rfl, rfl⟩ := hstep
      exact Or.inl ⟨hcloser, hend rfl⟩
    · have hname : Reads (do skipName; pure (some (.value [.object])))
          (behind isBlank (behind isBlank c).advance) o c₁ := hstep
      obtain ⟨_, _, hname, -⟩ := reads_bind.1 hname
      obtain ⟨hquote, -⟩ := reads_skipName.1 hname
      rw [behind_behind, hhead] at hquote
      exact Or.inr (Option.some.inj hquote)

/-! ### Strings -/

theorem reads_anyString {s : String} :
    Reads anyString c s c' ↔ (behind isBlank c).rest.head? = some (ascii '"') ∧
      Reads stringText (behind isBlank c).advance s c' := by
  simp only [anyString, string, reads_placed, reads_bind, reads_valueStart]
  constructor
  · rintro ⟨b, _, ⟨hb, rfl⟩, h⟩
    split at h
    · rename_i hquote
      simp only [reads_bind, reads_skip, reads_pure] at h
      obtain ⟨_, _, rfl, s', _, htext, rfl, rfl⟩ := h
      exact ⟨hquote ▸ hb, htext⟩
    · exact absurd h not_reads_mismatch
  · rintro ⟨hquote, htext⟩
    refine ⟨_, _, ⟨hquote, rfl⟩, ?_⟩
    simp only [if_true, reads_bind, reads_skip, reads_pure]
    exact ⟨(), _, rfl, s, c', htext, rfl, rfl⟩

/-- A string that is read can be skipped. -/
theorem reads_skipValue_of_anyString {s : String} (h : Reads anyString c s c') :
    Reads skipValue c () c' := by
  obtain ⟨hquote, htext⟩ := reads_anyString.1 h
  exact Piece.reads_skipValue (.string hquote (stringEnds_of_reads_stringText htext))

/-! ### Whole numbers -/

/-- A whole number that is read is a number behind its sign. -/
theorem number_of_reads_int64 {n : Int} (h : Reads int64 c n c') :
    ∃ b, (behind isBlank c).rest.head? = some b ∧ (b = ascii '-' ∨ isDigit b = true) ∧
      Reads (number (b ≠ ascii '-')) (behindMinus (behind isBlank c)) (.integer n) c' := by
  simp only [int64, whole, reads_placed, reads_bind, reads_valueStart] at h
  obtain ⟨b, _, ⟨hb, rfl⟩, h⟩ := h
  refine ⟨b, hb, ?_⟩
  split at h
  case isFalse => exact absurd h not_reads_mismatch
  case isTrue hstart =>
    refine ⟨by simpa using hstart, ?_⟩
    unfold behindMinus
    split at h
    case' isTrue hminus =>
      obtain ⟨_, _, hskip, h⟩ := reads_bind.1 h
      rw [if_pos (hminus ▸ hb), reads_skip.1 hskip]
    case' isFalse hminus =>
      rw [if_neg (by simpa [hb] using hminus)]
    -- Behind the sign, a number that is whole and within bounds is what is read.
    all_goals
      obtain ⟨v, _, hv, h⟩ := reads_bind.1 h
      split at h
      · split at h
        · obtain ⟨rfl, rfl⟩ := reads_pure.1 h
          exact hv
        · simp at h
      · simp at h

/-- A whole number that is read can be skipped. -/
theorem reads_skipValue_of_int64 {n : Int} (h : Reads int64 c n c') : Reads skipValue c () c' := by
  obtain ⟨b, hb, hstart, hnumber⟩ := number_of_reads_int64 h
  exact Piece.reads_skipValue (.number hb hstart (reads_skipNumber_of_number hnumber))

/-! ### What separates members -/

/-- Where another member comes, the cursor stands at the quote before its name. -/
theorem spans_of_reads_hasName {first more : Bool} (h : Reads (hasName first) c more c') :
    Spans .outside c c' .outside ∧ (more = true → c'.rest.head? = some (ascii '"')) := by
  simp only [hasName, reads_bind, reads_afterBlanks] at h
  obtain ⟨_, _, ⟨rfl, rfl⟩, h⟩ := h
  split at h
  · simp at h
  · rename_i b hb
    split at h
    · obtain ⟨rfl, rfl⟩ := reads_pure.1 h
      exact ⟨spans_blanks, by simp⟩
    · split at h
      · split at h
        · rename_i hquote
          obtain ⟨-, rfl⟩ := reads_pure.1 h
          exact ⟨spans_blanks, fun _ => hquote ▸ hb⟩
        · simp at h
      · split at h
        · rename_i hcomma
          simp only [reads_bind, reads_skip, reads_afterBlanks] at h
          obtain ⟨_, _, rfl, _, _, ⟨rfl, rfl⟩, h⟩ := h
          split at h
          · simp at h
          · rename_i b' hb'
            split at h
            · rename_i hquote
              obtain ⟨-, rfl⟩ := reads_pure.1 h
              have hstep : Place.outside.step b = some .outside := hcomma ▸ rfl
              exact ⟨spans_blanks.trans ((Spans.advance hb hstep).trans spans_blanks),
                fun _ => hquote ▸ hb'⟩
            · split at h <;> simp at h
        · simp at h

/-- After a member nothing but a comma or the end of the object can come. -/
theorem start_of_reads_hasName {more : Bool} (h : Reads (hasName false) c more c') :
    (behind isBlank c).rest.head? = some (ascii ',') ∨
      (behind isBlank c).rest.head? = some (ascii '\x7d') := by
  simp only [hasName, reads_bind, reads_afterBlanks] at h
  obtain ⟨_, _, ⟨rfl, rfl⟩, h⟩ := h
  split at h
  · simp at h
  · rename_i b hb
    split at h
    · rename_i hbrace
      exact Or.inr (hbrace ▸ hb)
    · rw [if_neg (by simp)] at h
      split at h
      · rename_i hcomma
        exact Or.inl (hcomma ▸ hb)
      · simp at h

theorem spans_of_reads_endObject (h : Reads endObject c u c') : Spans .outside c c' .outside := by
  simp only [endObject, reads_bind, reads_afterBlanks] at h
  obtain ⟨_, _, ⟨rfl, rfl⟩, h⟩ := h
  split at h
  · simp at h
  · rename_i b hb
    split at h
    · rename_i hbrace
      obtain rfl := reads_skip.1 h
      exact spans_blanks.trans (.advance hb (hbrace ▸ rfl))
    · split at h <;> simp at h

/-- At the end nothing is left. -/
theorem rest_of_reads_finish (h : Reads finish c u c') :
    Spans .outside c c' .outside ∧ c'.rest = [] := by
  simp only [finish, reads_bind, reads_afterBlanks] at h
  obtain ⟨_, _, ⟨rfl, rfl⟩, h⟩ := h
  split at h
  · simp at h
  · rename_i hnone
    obtain ⟨-, rfl⟩ := reads_pure.1 h
    exact ⟨spans_blanks, List.head?_eq_none_iff.1 (by simpa using hnone)⟩

end Friendship.Json.Reader
