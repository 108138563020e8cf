import Friendship.Identity.SignedToken
import Friendship.Proofs.Json.Skipped

/-!
# Times in a token

The time of a claim is whatever number stands there, and nothing if it is none. Reading it never
fails, but it can stop elsewhere than behind the value: before a byte that no member goes on with
(`Blocked`), or in the middle of a string.
-/
namespace Friendship.SignedToken

open Json Json.Reader

variable {α : Type} {c c' c₁ : Cursor}

/-- Whatever fails is left where it stopped. -/
theorem reads_lenient {r : Reader (Option α)} {o : Option α} :
    Reads (lenient r) c o c' ↔ Reads r c o c' ∨ o = none ∧ Fails r c c' := by
  unfold Reads Fails lenient
  rw [resultAt_tryCatch]
  cases resultAt r c with
  | mk result c₁ =>
    cases result with
    | ok a => simp
    | error e =>
      have hpure : resultAt (pure none : Reader (Option α)) c₁ = (.ok none, c₁) := rfl
      simp [hpure, eq_comm]

theorem stops_of_reads_lenient {r : Reader (Option α)} {o : Option α}
    (h : Reads (lenient r) c o c') : Stops r c c' := by
  obtain h | ⟨-, h⟩ := reads_lenient.1 h
  · exact Or.inl ⟨o, h⟩
  · exact Or.inr h

/-- What stands for a time, be it a number or not. -/
def secondsOf : Found → Option Nat
  | .integer n => if 0 ≤ n then some n.toNat else none
  | .float (.finite negative m e) =>
    let n := Decimal.Binary64.roundAway negative m e
    if (!negative || m = 0) && n < 2 ^ 64 then some n.toNat else none
  | _ => none

theorem reads_seconds_of_found {b : UInt8} {v : Found} (hb : (behind isBlank c).rest.head? = some b)
    (hlist : b ≠ ascii '[') (hobject : b ≠ ascii '\x7b')
    (h : Reads found (behind isBlank c) v c') : Reads seconds c (secondsOf v) c' := by
  refine reads_lenient.2 (Or.inl ?_)
  simp only [reads_bind, reads_valueStart]
  refine ⟨b, _, ⟨hb, rfl⟩, ?_⟩
  rw [if_neg hlist, if_neg hobject]
  refine reads_bind.2 ⟨v, c', h, ?_⟩
  unfold secondsOf
  split <;> simp_all

/-- A string is no time. -/
theorem reads_seconds_of_anyString {s : String} (h : Reads anyString c s c') :
    Reads seconds c none c' := by
  obtain ⟨hquote, htext⟩ := reads_anyString.1 h
  have hfound : Reads found (behind isBlank c) (.string s) c' := by
    refine reads_bind.2 ⟨_, _, reads_peek.2 ⟨hquote, rfl⟩, ?_⟩
    exact reads_bind.2 ⟨(), _, reads_skip.2 rfl,
      reads_bind.2 ⟨s, c', htext, reads_pure.2 ⟨rfl, rfl⟩⟩⟩
  exact reads_seconds_of_found hquote (by decide) (by decide) hfound

/-- The time of a whole number is the number, unless it is negative. -/
theorem reads_seconds_of_int64 {n : Int} (h : Reads int64 c n c') :
    Reads seconds c (if 0 ≤ n then some n.toNat else none) c' := by
  obtain ⟨b, hb, hstart, hnumber⟩ := number_of_reads_int64 h
  have hfound : Reads found (behind isBlank c) (.integer n) c' := by
    refine reads_bind.2 ⟨_, _, reads_peek.2 ⟨hb, rfl⟩, ?_⟩
    rcases hstart with rfl | hdigit
    · rw [behindMinus_of_minus hb] at hnumber
      exact reads_bind.2 ⟨(), _, reads_skip.2 rfl,
        reads_bind.2 ⟨.integer n, c', hnumber, reads_pure.2 ⟨rfl, rfl⟩⟩⟩
    · have hminus : b ≠ ascii '-' := by
        rintro rfl
        exact absurd hdigit (by decide)
      rw [behindMinus_of_digit hb hdigit, decide_eq_true hminus] at hnumber
      simp only [hdigit, if_true]
      exact reads_bind.2 ⟨.integer n, c', hnumber, reads_pure.2 ⟨rfl, rfl⟩⟩
  have hlist : b ≠ ascii '[' := by rintro rfl; exact absurd hstart (by decide)
  have hobject : b ≠ ascii '\x7b' := by rintro rfl; exact absurd hstart (by decide)
  exact reads_seconds_of_found hb hlist hobject hfound

/-! ### Times that are no numbers -/

/-- The next byte is neither a comma nor the end of an object. -/
def Blocked (c : Cursor) : Prop :=
  ∃ b, (behind isBlank c).rest.head? = some b ∧ b ≠ ascii ',' ∧ b ≠ ascii '\x7d'

/-- Reading stops at the end of a value, before a byte that nothing goes on with, or in the middle
of a string. -/
def Astray (c c' : Cursor) : Prop := c = c' ∨ Blocked c ∨ StringEnds c c'

theorem astray_of_among (h : Among c c') : Astray c c' := by
  obtain rfl | ⟨d, hd, hdigit⟩ := h
  · exact Or.inl rfl
  · have hself : behind isBlank c = c := behind_eq_self hd (not_blank_of_isDigit hdigit)
    refine Or.inr (Or.inl ⟨d, by rw [hself, hd], ?_, ?_⟩) <;>
      (rintro rfl; exact absurd hdigit (by decide))

theorem astray_of_within (h : Within c c') : Astray c c' := h.imp_right Or.inr

/-- Behind the first byte of a list that is skipped its end is found, or another byte than that. -/
theorem astray_of_list (hb : (behind isBlank c).rest.head? = some (ascii '['))
    (hskip : Reads skipValue c () c') (h : Stops endList (behind isBlank c).advance c₁) :
    Astray c₁ c' := by
  obtain ⟨b, hb, hend⟩ := start_of_reads_skipValue_list hb hskip
  have h := stops_bind_of_reads (reads_afterBlanks.2 ⟨hb, rfl⟩) h
  obtain ⟨rfl, hend⟩ | ⟨hbracket, hcomma, hbrace⟩ := hend
  · exact Or.inl ((reads_skip (u := ()).2 hend).eq_of_stops h).symm
  · simp only [if_neg hbracket, if_neg hcomma, stops_failNext] at h
    subst h
    exact Or.inr (Or.inl ⟨b, by rw [behind_behind, hb], hcomma, hbrace⟩)

theorem astray_of_object (hb : (behind isBlank c).rest.head? = some (ascii '\x7b'))
    (hskip : Reads skipValue c () c') (h : Stops endObject (behind isBlank c).advance c₁) :
    Astray c₁ c' := by
  obtain ⟨b, hb, hend⟩ := start_of_reads_skipValue_object hb hskip
  have h := stops_bind_of_reads (reads_afterBlanks.2 ⟨hb, rfl⟩) h
  obtain ⟨rfl, hend⟩ | rfl := hend
  · exact Or.inl ((reads_skip (u := ()).2 hend).eq_of_stops h).symm
  · obtain rfl := stops_failNext.1 h
    exact Or.inr (Or.inl ⟨_, by rw [behind_behind, hb], by decide, by decide⟩)

theorem astray_of_found {b : UInt8} (hb : (behind isBlank c).rest.head? = some b)
    (hlist : b ≠ ascii '[') (hobject : b ≠ ascii '\x7b') (hskip : Reads skipValue c () c')
    (h : Stops found (behind isBlank c) c₁) : Astray c₁ c' := by
  have h := stops_bind_of_reads (reads_peek.2 ⟨rfl, rfl⟩) h
  cases piece_of_reads_skipValue hb hlist hobject hskip with
  | number hstart hnumber hskip =>
    rw [hstart] at h
    rcases hnumber with rfl | hdigit
    · rw [behindMinus_of_minus hstart] at hskip
      have h := stops_bind_of_reads (reads_skip (u := ()).2 rfl) h
      simp only [bind_pure_comp, stops_map] at h
      exact astray_of_among (among_of_stops_number hskip h)
    · rw [behindMinus_of_digit hstart hdigit] at hskip
      simp only [if_pos hdigit, bind_pure_comp, stops_map] at h
      exact astray_of_among (among_of_stops_number hskip h)
  | literal hstart hword hskip =>
    rw [hstart] at h
    simp only [words, List.mem_cons, Prod.mk.injEq, List.not_mem_nil, or_false] at hword
    rcases hword with ⟨rfl, rfl⟩ | ⟨rfl, rfl⟩ | ⟨rfl, rfl⟩
    all_goals
      have h := stops_bind_of_reads (reads_skip (u := ()).2 rfl) h
      have h := stops_bind_of_reads hskip h
      exact Or.inl (stops_pure.1 h).symm
  | string hstart hends =>
    rw [hstart] at h
    have h := stops_bind_of_reads (reads_skip (u := ()).2 rfl) h
    simp only [bind_pure_comp, stops_map] at h
    exact astray_of_within (within_of_stops_stringText hends h)

/-- Reading the time of a value that can be skipped stops behind it or goes astray. -/
theorem astray_of_reads_seconds {o : Option Nat} (hskip : Reads skipValue c () c')
    (h : Reads seconds c o c₁) : Astray c₁ c' := by
  have hstop := stops_of_reads_lenient h
  have hfirst := hskip
  simp only [skipValue, reads_bind, reads_get] at hfirst
  obtain ⟨_, _, ⟨rfl, rfl⟩, hfirst⟩ := hfirst
  obtain ⟨o, _, hstep, -, -⟩ := exists_of_reads_skipAwaited hfirst
  obtain ⟨b, hb, -, -⟩ := start_of_reads_skipStep hstep
  have hstop := stops_bind_of_reads (reads_valueStart.2 ⟨hb, rfl⟩) hstop
  by_cases hlist : b = ascii '['
  · rw [if_pos hlist] at hstop
    have hstop := stops_bind_of_reads (reads_skip (u := ()).2 rfl) hstop
    have hstop := stops_of_stops_bind (fun _ _ _ h => stops_pure.1 h) hstop
    exact astray_of_list (hlist ▸ hb) hskip hstop
  · rw [if_neg hlist] at hstop
    by_cases hobject : b = ascii '\x7b'
    · rw [if_pos hobject] at hstop
      have hstop := stops_bind_of_reads (reads_skip (u := ()).2 rfl) hstop
      have hstop := stops_of_stops_bind (fun _ _ _ h => stops_pure.1 h) hstop
      exact astray_of_object (hobject ▸ hb) hskip hstop
    · rw [if_neg hobject] at hstop
      have hstop := stops_of_stops_bind
        (fun v _ _ h => by split at h <;> exact stops_pure.1 h) hstop
      exact astray_of_found hb hlist hobject hskip hstop

end Friendship.SignedToken
