import Friendship.Proofs.Json.Numbers

/-!
# Inside and outside of strings

A text tells for each of its bytes whether it stands in a string, once that is known for the first.
The bytes between two cursors are followed by `Spans`; values that are skipped, each piece of them
by its first byte (`Piece`), begin and end outside of strings. No text can be read both as if it
began inside of a string and as if it began outside: `Place.opposite`.
-/
namespace Friendship.Json

/-- Where a byte stands: outside of strings, in one, or behind a backslash in one. -/
inductive Place
  | outside
  | inside
  | escaped
  deriving DecidableEq

namespace Place

/-- The place behind a byte. Outside of strings there are no backslashes, and no word has an x. -/
def step : Place → UInt8 → Option Place
  | outside, b => if b = 34 then some inside else if b = 92 ∨ b = 120 then none else some outside
  | inside, b => if b = 34 then some outside else if b = 92 then some escaped else some inside
  | escaped, _ => some inside

/-- The place behind some bytes. -/
def after (p : Place) (bs : List UInt8) : Option Place := bs.foldlM step p

@[simp] theorem after_nil (p : Place) : p.after [] = some p := rfl

@[simp] theorem after_cons (p : Place) (b : UInt8) (bs : List UInt8) :
    p.after (b :: bs) = (p.step b).bind fun q => q.after bs := rfl

theorem step_outside {b : UInt8} (hquote : b ≠ 34) (hbackslash : b ≠ 92) (hx : b ≠ 120) :
    outside.step b = some outside := by
  simp [step, hquote, hbackslash, hx]

theorem step_inside {b : UInt8} (hquote : b ≠ 34) (hbackslash : b ≠ 92) :
    inside.step b = some inside := by
  simp [step, hquote, hbackslash]

theorem after_append (p : Place) (bs bs' : List UInt8) :
    p.after (bs ++ bs') = (p.after bs).bind fun q => q.after bs' := by
  simp [after, List.foldlM_append]

theorem after_of_forall {p : Place} {bs : List UInt8} (h : ∀ b ∈ bs, p.step b = some p) :
    p.after bs = some p := by
  induction bs with
  | nil => rfl
  | cons b bs ih =>
    rw [after_cons, h b List.mem_cons_self, Option.bind_some]
    exact ih fun b' hb' => h b' (List.mem_cons_of_mem _ hb')

/-- Bytes that can follow both inside and outside of a string keep the two apart. -/
theorem opposite {bs : List UInt8} {p q : Place} (hp : outside.after bs = some p)
    (hq : inside.after bs = some q) : p = outside ∧ q = inside ∨ p = inside ∧ q = outside := by
  induction bs generalizing p q with
  | nil => simp_all
  | cons b bs ih =>
    rw [after_cons] at hp hq
    by_cases hquote : b = 34
    · -- The byte is a quote: the two change places.
      simp only [step, if_pos hquote, Option.bind_some] at hp hq
      exact (ih hq hp).symm.imp And.symm And.symm
    · by_cases hother : b = 92 ∨ b = 120
      · simp [step, hquote, hother] at hp
      · have hbackslash : b ≠ 92 := fun h => hother (Or.inl h)
        simp only [step, if_neg hquote, if_neg hother, if_neg hbackslash, Option.bind_some] at hp hq
        exact ih hp hq

/-- Outside of strings there is no x. -/
theorem not_mem_of_outside {bs : List UInt8} {p : Place} (hquote : ∀ b ∈ bs, b ≠ 34)
    (h : outside.after bs = some p) : 120 ∉ bs ∧ p = outside := by
  induction bs with
  | nil => simp_all
  | cons b bs ih =>
    have hb : b ≠ 34 := hquote b List.mem_cons_self
    by_cases hother : b = 92 ∨ b = 120
    · simp [step, hb, hother] at h
    · simp only [after_cons, step, if_neg hb, if_neg hother, Option.bind_some] at h
      obtain ⟨hmem, hp⟩ := ih (fun b' hb' => hquote b' (List.mem_cons_of_mem _ hb')) h
      refine ⟨?_, hp⟩
      rw [List.mem_cons, not_or]
      exact ⟨fun heq => hother (Or.inr heq.symm), hmem⟩

end Place

/-- The bytes between two cursors lead from one place to another. -/
def Spans (p : Place) (c c' : Cursor) (q : Place) : Prop :=
  ∃ bs, c.rest = bs ++ c'.rest ∧ p.after bs = some q

namespace Spans

variable {p q q' : Place} {c c' c'' : Cursor}

theorem refl (p : Place) (c : Cursor) : Spans p c c p := ⟨[], rfl, rfl⟩

theorem trans (h : Spans p c c' q) (h' : Spans q c' c'' q') : Spans p c c'' q' := by
  obtain ⟨bs, hrest, hafter⟩ := h
  obtain ⟨bs', hrest', hafter'⟩ := h'
  refine ⟨bs ++ bs', by rw [hrest, hrest', List.append_assoc], ?_⟩
  rw [Place.after_append, hafter, Option.bind_some, hafter']

theorem after (h : Spans p c c' q) (hafter : q.after c'.rest = some q') :
    p.after c.rest = some q' := by
  obtain ⟨bs, hrest, hbs⟩ := h
  rw [hrest, Place.after_append, hbs, Option.bind_some, hafter]

/-- What can be read on from the first cursor can be read on from the second one. -/
theorem exists_after (h : Spans p c c' q) {p' : Place} (hafter : p'.after c.rest = some q') :
    ∃ q₁, (∃ bs, p.after bs = some q ∧ p'.after bs = some q₁) ∧ q₁.after c'.rest = some q' := by
  obtain ⟨bs, hrest, hbs⟩ := h
  rw [hrest, Place.after_append] at hafter
  obtain ⟨q₁, hq₁, hafter⟩ := Option.bind_eq_some_iff.1 hafter
  exact ⟨q₁, ⟨bs, hbs, hq₁⟩, hafter⟩

/-- Bytes that begin and end outside of strings begin and end inside of them, too, if they can. -/
theorem inside_after (h : Spans .outside c c' .outside)
    (hafter : Place.inside.after c.rest = some q') : Place.inside.after c'.rest = some q' := by
  obtain ⟨q₁, ⟨bs, hbs, hq₁⟩, hafter⟩ := h.exists_after hafter
  obtain ⟨-, rfl⟩ | ⟨h, -⟩ := Place.opposite hbs hq₁
  · exact hafter
  · cases h

/-- The bytes of a string and its closing quote lead from outside of strings to inside, if they
can. -/
theorem outside_after (h : Spans .inside c c' .outside)
    (hafter : Place.outside.after c.rest = some q') : Place.inside.after c'.rest = some q' := by
  obtain ⟨q₁, ⟨bs, hbs, hq₁⟩, hafter⟩ := h.exists_after hafter
  obtain ⟨-, h⟩ | ⟨rfl, -⟩ := Place.opposite hq₁ hbs
  · cases h
  · exact hafter

theorem advance {b : UInt8} (hb : c.rest.head? = some b) (hstep : p.step b = some q) :
    Spans p c c.advance q := by
  obtain ⟨rest, hrest⟩ := List.head?_eq_some_iff.1 hb
  exact ⟨[b], by simp [Cursor.rest_advance, hrest], by simp [hstep]⟩

theorem behind {kind : UInt8 → Bool} (hkind : ∀ b, kind b = true → p.step b = some p) :
    Spans p c (Reader.behind kind c) p := by
  refine ⟨c.rest.takeWhile kind, ?_, ?_⟩
  · rw [Reader.rest_behind, List.takeWhile_append_dropWhile]
  · exact Place.after_of_forall fun b hb => hkind b (List.all_eq_true.1 List.all_takeWhile b hb)

theorem forward {n : Nat} (hbytes : ∀ b ∈ c.rest.take n, p.step b = some p) :
    Spans p c (c.forward n) p :=
  ⟨c.rest.take n, by rw [Cursor.rest_forward, List.take_append_drop],
    Place.after_of_forall hbytes⟩

end Spans

namespace Reader

variable {c c' : Cursor}

theorem spans_blanks : Spans .outside c (behind isBlank c) .outside := by
  refine Spans.behind fun b hb => ?_
  apply Place.step_outside <;> (rintro rfl; exact absurd hb (by decide))

theorem spans_digits : Spans .outside c (behind isDigit c) .outside := by
  refine Spans.behind fun b hb => ?_
  apply Place.step_outside <;> (rintro rfl; exact absurd hb (by decide))

theorem StringEnds.spans (h : StringEnds c c') : Spans .inside c c' .outside := by
  have hplain (c : Cursor) : Spans .inside c (behind isPlain c) .inside :=
    Spans.behind fun b hb => by
      apply Place.step_inside <;> (rintro rfl; exact absurd hb (by decide))
  induction h with
  | close hquote => exact (hplain _).trans (.advance hquote rfl)
  | short hbackslash hb hshort hends ih =>
    exact (hplain _).trans ((Spans.advance hbackslash rfl).trans ((Spans.advance hb rfl).trans ih))
  | unicode hbackslash hb hhex hends ih =>
    obtain ⟨rfl, -, hdigits⟩ := digits_of_reads_hexEscape hhex
    refine (hplain _).trans ((Spans.advance hbackslash rfl).trans
      ((Spans.advance hb rfl).trans ((Spans.forward fun b hb => ?_).trans ih)))
    have hdigit := hdigits b hb
    apply Place.step_inside <;> (rintro rfl; exact absurd hdigit (by decide))

theorem spans_of_reads_stringText {s : String} (h : Reads stringText c s c') :
    Spans .inside c c' .outside :=
  (stringEnds_of_reads_stringText h).spans

theorem text?_eq_some {bytes : List UInt8} {s : String} (h : Text.Utf8.text? bytes = some s) :
    s.toUTF8.data.toList = bytes := by
  unfold Text.Utf8.text? String.fromUTF8? at h
  split at h
  · obtain rfl := Option.some.inj h
    rfl
  · cases h

/-- A string that stands, as another reading sees it, outside of strings has no x. -/
theorem not_mem_of_reads_stringText {s : String} {p : Place} (h : Reads stringText c s c')
    (hafter : Place.outside.after c.rest = some p) : 120 ∉ s.toUTF8.data.toList := by
  simp only [stringText, reads_bind, reads_get, reads_skip] at h
  obtain ⟨_, _, ⟨rfl, rfl⟩, bytes, c₁, hbytes, _, _, ⟨rfl, rfl⟩, _, _, rfl, h⟩ := h
  have hx : 120 ∉ bytes := by
    simp only [stringBytes, reads_bind, reads_peekWhile, reads_skipWhile, reads_peek] at hbytes
    obtain ⟨_, _, ⟨rfl, rfl⟩, _, _, rfl, _, _, ⟨rfl, rfl⟩, hbytes⟩ := hbytes
    have hsplit : c.rest = c.rest.takeWhile isPlain ++ (behind isPlain c).rest := by
      rw [rest_behind, List.takeWhile_append_dropWhile]
    rw [hsplit, Place.after_append] at hafter
    obtain ⟨q, hq, hafter⟩ := Option.bind_eq_some_iff.1 hafter
    obtain ⟨hx, rfl⟩ := Place.not_mem_of_outside (fun b hb heq => by
      have hplain := List.all_eq_true.1 List.all_takeWhile b hb
      exact absurd (heq ▸ hplain) (by decide)) hq
    split at hbytes
    · simp at hbytes
    · obtain ⟨rfl, -⟩ := reads_pure.1 hbytes
      simpa using hx
    · rename_i hbackslash
      obtain ⟨rest, hrest⟩ := List.head?_eq_some_iff.1 hbackslash
      rw [hrest, Place.after_cons] at hafter
      exact absurd hafter (by simp [Place.step])
    · simp [reads_bind] at hbytes
  split at h
  · rename_i htext
    obtain ⟨rfl, -⟩ := reads_pure.1 h
    rwa [text?_eq_some htext]
  · simp [failInside] at h

/-! ### Numbers -/

theorem spans_digit {b : UInt8} (hb : c.rest.head? = some b) (hdigit : isDigit b = true) :
    Spans .outside c c.advance .outside := by
  refine Spans.advance hb ?_
  apply Place.step_outside <;> (rintro rfl; exact absurd hdigit (by decide))

theorem spans_behindSign : Spans .outside c (behindSign c) .outside := by
  unfold behindSign
  split
  · rename_i hsign
    obtain ⟨b, hb, hsign⟩ := (Option.any_eq_true _ _).1 hsign
    have hbyte : b = 43 ∨ b = 45 := by simpa using hsign
    rcases hbyte with rfl | rfl <;> exact Spans.advance hb rfl
  · exact Spans.refl _ _

theorem spans_of_reads_skipAfterDigits (h : Reads skipAfterDigits c () c') :
    Spans .outside c c' .outside := by
  rw [reads_skipAfterDigits] at h
  split at h
  · rename_i hletter
    obtain ⟨b, hb, hletter⟩ := (Option.any_eq_true _ _).1 hletter
    have hbyte : b = 101 ∨ b = 69 := by simpa using hletter
    have hstep : Place.outside.step b = some .outside := by rcases hbyte with rfl | rfl <;> rfl
    obtain ⟨hdigit, rfl⟩ := reads_skipExponent.1 h
    obtain ⟨d, hd, hdigit⟩ := (Option.any_eq_true _ _).1 hdigit
    exact (Spans.advance hb hstep).trans
      (spans_behindSign.trans ((spans_digit hd hdigit).trans spans_digits))
  · exact h ▸ Spans.refl _ _

theorem spans_of_reads_skipAfterWhole (h : Reads skipAfterWhole c () c') :
    Spans .outside c c' .outside := by
  rw [reads_skipAfterWhole] at h
  split at h
  · rename_i hpoint
    exact (Spans.advance hpoint rfl).trans (spans_digits.trans (spans_of_reads_skipAfterDigits h.2))
  · exact spans_of_reads_skipAfterDigits h

theorem spans_of_reads_skipNumber (h : Reads skipNumber c () c') :
    Spans .outside c c' .outside := by
  obtain ⟨b, hb, ⟨rfl, -, h⟩ | ⟨-, hdigit, h⟩⟩ := reads_skipNumber.1 h
  · exact (Spans.advance hb rfl).trans (spans_of_reads_skipAfterWhole h)
  · exact (spans_digit hb hdigit).trans (spans_digits.trans (spans_of_reads_skipAfterWhole h))

/-! ### Words and names -/

theorem spans_of_reads_word {cs : List Char} {u : Unit}
    (hcs : cs.all (fun ch => Place.outside.step (ascii ch) = some .outside) = true)
    (h : Reads (word cs) c u c') : Spans .outside c c' .outside := by
  induction cs generalizing c with
  | nil =>
    obtain ⟨-, rfl⟩ := reads_pure.1 h
    exact Spans.refl _ _
  | cons ch cs ih =>
    rw [List.all_cons, Bool.and_eq_true, decide_eq_true_eq] at hcs
    simp only [word, reads_bind, reads_next] at h
    obtain ⟨_, _, ⟨rfl, rfl⟩, h⟩ := h
    split at h
    · simp at h
    · rename_i b hb
      split at h
      · rename_i hch
        subst hch
        exact (Spans.advance hb hcs.1).trans (ih hcs.2 h)
      · simp at h

theorem reads_colon {u : Unit} :
    Reads colon c u c' ↔
      (behind isBlank c).rest.head? = some (ascii ':') ∧ (behind isBlank c).advance = c' := by
  simp only [colon, reads_bind, reads_afterBlanks]
  constructor
  · rintro ⟨_, _, ⟨rfl, rfl⟩, h⟩
    split at h
    · simp at h
    · split at h <;> simp_all
  · rintro ⟨hcolon, hend⟩
    exact ⟨_, _, ⟨rfl, rfl⟩, by simp [hcolon, hend]⟩

theorem spans_of_reads_colon {u : Unit} (h : Reads colon c u c') :
    Spans .outside c c' .outside := by
  obtain ⟨hcolon, rfl⟩ := reads_colon.1 h
  exact spans_blanks.trans (.advance hcolon rfl)

theorem reads_skipName {u : Unit} :
    Reads skipName c u c' ↔ (behind isBlank c).rest.head? = some (ascii '"') ∧
      ∃ c₁, StringEnds (behind isBlank c).advance c₁ ∧ Reads colon c₁ u c' := by
  unfold skipName
  simp only [reads_bind, reads_afterBlanks]
  constructor
  · rintro ⟨_, _, ⟨rfl, rfl⟩, h⟩
    split at h
    · simp at h
    · rename_i b hb
      split at h
      · simp [reads_bind] at h
      · rename_i hquote
        simp only [reads_bind, reads_skip, reads_get] at h
        obtain ⟨_, _, rfl, _, _, ⟨rfl, rfl⟩, _, c₁, hskip, h⟩ := h
        obtain rfl := Classical.not_not.1 hquote
        exact ⟨hb, c₁, stringEnds_of_reads hskip, reads_bind.2 h⟩
  · rintro ⟨hquote, c₁, hends, h⟩
    refine ⟨_, _, ⟨rfl, rfl⟩, ?_⟩
    simp only [hquote, ne_eq, not_true_eq_false, if_false, reads_bind, reads_skip, reads_get]
    exact ⟨(), _, rfl, _, _, ⟨rfl, rfl⟩, (), c₁, hends.reads (Nat.lt_succ_self _), reads_bind.1 h⟩

theorem spans_of_reads_skipName {u : Unit} (h : Reads skipName c u c') :
    Spans .outside c c' .outside := by
  obtain ⟨hquote, c₁, hends, hcolon⟩ := reads_skipName.1 h
  exact spans_blanks.trans ((Spans.advance hquote rfl).trans
    (hends.spans.trans (spans_of_reads_colon hcolon)))

theorem spans_of_reads_skipToElement {frame : Frame} {outer : List Frame} {o : Option Awaited}
    (h : Reads (skipToElement frame outer) c o c') : Spans .outside c c' .outside := by
  simp only [skipToElement] at h
  split at h
  · simp only [reads_bind, reads_pure] at h
    obtain ⟨_, _, hname, -, rfl⟩ := h
    exact spans_of_reads_skipName hname
  · obtain ⟨-, rfl⟩ := reads_pure.1 h
    exact Spans.refl _ _

/-! ### The first piece of a value -/

/-- The byte that a list or object begins with. -/
def Frame.opener : Frame → UInt8
  | .list => ascii '['
  | .object => ascii '\x7b'

/-- The words, each with its first byte apart. -/
def words : List (UInt8 × List Char) :=
  [(ascii 'n', ['u', 'l', 'l']), (ascii 't', ['r', 'u', 'e']), (ascii 'f', ['a', 'l', 's', 'e'])]

/-- The cursor behind a minus sign, if there is one. -/
def behindMinus (c : Cursor) : Cursor := if c.rest.head? = some (ascii '-') then c.advance else c

/-- The first piece of a value by its first byte: what is awaited behind it, and where that is. -/
inductive Piece (outer : List Frame) (c : Cursor) : Option Awaited → Cursor → Prop
  | number {b : UInt8} {c' : Cursor} (hb : c.rest.head? = some b)
    (hstart : b = ascii '-' ∨ isDigit b = true) (h : Reads skipNumber (behindMinus c) () c') :
    Piece outer c (Awaited.afterValue outer) c'
  | literal {b : UInt8} {cs : List Char} {c' : Cursor} (hb : c.rest.head? = some b)
    (hword : (b, cs) ∈ words) (h : Reads (word cs) c.advance () c') :
    Piece outer c (Awaited.afterValue outer) c'
  | string {c' : Cursor} (hb : c.rest.head? = some (ascii '"')) (h : StringEnds c.advance c') :
    Piece outer c (Awaited.afterValue outer) c'
  | opens (frame : Frame) (hb : c.rest.head? = some frame.opener) :
    Piece outer c (some (.more frame outer false)) c.advance

theorem behindMinus_of_digit {b : UInt8} (hb : c.rest.head? = some b) (hdigit : isDigit b = true) :
    behindMinus c = c := by
  refine if_neg ?_
  rw [hb, Option.some.injEq]
  rintro rfl
  exact absurd hdigit (by decide)

theorem behindMinus_of_minus (hb : c.rest.head? = some (ascii '-')) : behindMinus c = c.advance :=
  if_pos hb

theorem piece_of_reads_skipStep {outer : List Frame} {o : Option Awaited}
    (h : Reads (skipStep (.value outer)) c o c') : Piece outer (behind isBlank c) o c' := by
  simp only [skipStep, reads_bind, reads_afterBlanks] at h
  obtain ⟨_, _, ⟨rfl, rfl⟩, h⟩ := h
  split at h
  · simp at h
  · rename_i b hb
    split at h
    · rename_i hdigit
      simp only [reads_bind, reads_pure] at h
      obtain ⟨_, _, hnumber, rfl, rfl⟩ := h
      exact .number hb (Or.inr hdigit) (by rwa [behindMinus_of_digit hb hdigit])
    · split at h
      case h_4 hch =>
        obtain rfl := eq_ascii_of_ofNat hch
        simp only [reads_bind, reads_skip, reads_pure] at h
        obtain ⟨_, _, rfl, _, _, hnumber, rfl, rfl⟩ := h
        exact .number hb (Or.inl rfl) (by rwa [behindMinus_of_minus hb])
      case h_5 hch =>
        obtain rfl := eq_ascii_of_ofNat hch
        simp only [reads_bind, reads_skip, reads_get, reads_pure] at h
        obtain ⟨_, _, rfl, _, _, ⟨rfl, rfl⟩, _, _, hstring, rfl, rfl⟩ := h
        exact .string hb (stringEnds_of_reads hstring)
      case h_6 hch | h_7 hch =>
        obtain rfl := eq_ascii_of_ofNat hch
        simp only [reads_bind, reads_skip, reads_pure] at h
        obtain ⟨_, _, rfl, rfl, rfl⟩ := h
        first | exact .opens .list hb | exact .opens .object hb
      case h_8 => simp at h
      all_goals
        rename_i hch
        obtain rfl := eq_ascii_of_ofNat hch
        simp only [reads_bind, reads_skip, reads_pure] at h
        obtain ⟨_, _, rfl, _, _, hword, rfl, rfl⟩ := h
        exact .literal hb (by decide) hword

/-- A step leaves the first piece of a value behind. -/
theorem reads_skipStep_value {outer : List Frame} {o : Option Awaited} :
    Reads (skipStep (.value outer)) c o c' ↔ Piece outer (behind isBlank c) o c' := by
  refine ⟨piece_of_reads_skipStep, fun h => ?_⟩
  simp only [skipStep, reads_bind, reads_afterBlanks]
  refine ⟨_, _, ⟨rfl, rfl⟩, ?_⟩
  cases h with
  | number hb hstart h =>
    rw [hb]
    rcases hstart with rfl | hdigit
    · rw [behindMinus_of_minus hb] at h
      exact reads_bind.2 ⟨(), _, reads_skip.2 rfl, reads_bind.2 ⟨(), _, h, reads_pure.2 ⟨rfl, rfl⟩⟩⟩
    · rw [behindMinus_of_digit hb hdigit] at h
      simp only [hdigit, if_true]
      exact reads_bind.2 ⟨(), _, h, reads_pure.2 ⟨rfl, rfl⟩⟩
  | literal hb hword h =>
    simp only [words, List.mem_cons, Prod.mk.injEq, List.not_mem_nil, or_false] at hword
    rw [hb]
    rcases hword with ⟨rfl, rfl⟩ | ⟨rfl, rfl⟩ | ⟨rfl, rfl⟩ <;>
      exact reads_bind.2 ⟨(), _, reads_skip.2 rfl,
        reads_bind.2 ⟨(), _, h, reads_pure.2 ⟨rfl, rfl⟩⟩⟩
  | string hb h =>
    rw [hb]
    exact reads_bind.2 ⟨(), _, reads_skip.2 rfl, reads_bind.2 ⟨_, _, reads_get.2 ⟨rfl, rfl⟩,
      reads_bind.2 ⟨(), _, h.reads (Nat.lt_succ_self _), reads_pure.2 ⟨rfl, rfl⟩⟩⟩⟩
  | opens frame hb =>
    rw [hb]
    cases frame <;> exact reads_bind.2 ⟨(), _, reads_skip.2 rfl, reads_pure.2 ⟨rfl, rfl⟩⟩

theorem Piece.eq_of_opener {outer : List Frame} {o : Option Awaited} (h : Piece outer c o c')
    {frame : Frame} (hb : c.rest.head? = some frame.opener) :
    o = some (.more frame outer false) ∧ c' = c.advance := by
  cases h with
  | number hstart hnumber =>
    obtain rfl := Option.some.inj (hb.symm.trans hstart)
    cases frame <;> exact absurd hnumber (by decide)
  | literal hstart hword =>
    obtain rfl := Option.some.inj (hb.symm.trans hstart)
    cases frame <;> simp [words, Frame.opener, ascii] at hword
  | string hstart => cases frame <;> exact absurd (hb.symm.trans hstart) (by decide)
  | opens other hstart =>
    have hsame : frame.opener = other.opener := Option.some.inj (hb.symm.trans hstart)
    have hframe : frame = other := by revert hsame; cases frame <;> cases other <;> decide
    exact ⟨hframe ▸ rfl, rfl⟩

/-! ### Values that are skipped -/

theorem Piece.spans {outer : List Frame} {o : Option Awaited} (h : Piece outer c o c') :
    Spans .outside c c' .outside := by
  cases h with
  | number hb hstart h =>
    refine Spans.trans ?_ (spans_of_reads_skipNumber h)
    rcases hstart with rfl | hdigit
    · exact behindMinus_of_minus hb ▸ Spans.advance hb rfl
    · exact (behindMinus_of_digit hb hdigit).symm ▸ Spans.refl _ _
  | literal hb hword h =>
    simp only [words, List.mem_cons, Prod.mk.injEq, List.not_mem_nil, or_false] at hword
    rcases hword with ⟨rfl, rfl⟩ | ⟨rfl, rfl⟩ | ⟨rfl, rfl⟩ <;>
      exact (Spans.advance hb rfl).trans (spans_of_reads_word (by decide) h)
  | string hb h => exact (Spans.advance hb rfl).trans h.spans
  | opens frame hb => cases frame <;> exact Spans.advance hb rfl

theorem spans_of_reads_skipStep {awaited : Awaited} {o : Option Awaited}
    (h : Reads (skipStep awaited) c o c') : Spans .outside c c' .outside := by
  cases awaited with
  | value outer => exact spans_blanks.trans (piece_of_reads_skipStep h).spans
  | more frame outer comma =>
    simp only [skipStep, reads_bind, reads_afterBlanks] at h
    obtain ⟨_, _, ⟨rfl, rfl⟩, h⟩ := h
    refine spans_blanks.trans ?_
    split at h
    · simp at h
    · rename_i b hb
      split at h
      · rename_i hcomma
        simp only [Bool.and_eq_true, decide_eq_true_eq] at hcomma
        simp only [reads_bind, reads_skip] at h
        obtain ⟨_, _, rfl, h⟩ := h
        exact (Spans.advance hb (hcomma.2 ▸ rfl)).trans (spans_of_reads_skipToElement h)
      · split at h
        · rename_i hcloser
          simp only [reads_bind, reads_skip, reads_pure] at h
          obtain ⟨_, _, rfl, -, rfl⟩ := h
          refine Spans.advance hb ?_
          subst hcloser
          cases frame <;> rfl
        · split at h
          · simp at h
          · exact spans_of_reads_skipToElement h

theorem spans_of_reads_skipAwaited {fuel : Nat} {awaited : Awaited} {u : Unit}
    (h : Reads (skipAwaited fuel awaited) c u c') : Spans .outside c c' .outside := by
  induction fuel generalizing c awaited with
  | zero => simp [skipAwaited] at h
  | succ fuel ih =>
    simp only [skipAwaited, reads_bind] at h
    obtain ⟨o, c₁, hstep, h⟩ := h
    refine (spans_of_reads_skipStep hstep).trans ?_
    split at h
    · exact (reads_pure.1 h).2 ▸ Spans.refl _ _
    · exact ih h

/-- A value that is skipped begins and ends outside of strings. -/
theorem spans_of_reads_skipValue {u : Unit} (h : Reads skipValue c u c') :
    Spans .outside c c' .outside := by
  simp only [skipValue, reads_bind, reads_get] at h
  obtain ⟨_, _, ⟨rfl, rfl⟩, h⟩ := h
  exact spans_of_reads_skipAwaited h

end Reader
end Friendship.Json
