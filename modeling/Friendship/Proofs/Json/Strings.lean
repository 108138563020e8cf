import Friendship.Proofs.Json.Reads
import Friendship.Proofs.Text.Bytes

/-!
# Strings of which only the form counts

`StringEnds` tells the form of a string by its escapes. A string that is skipped has it
(`stringEnds_of_reads`), and so has one that is read (`stringEnds_of_reads_stringText`). One that
has it but cannot be read is left somewhere in the string or behind it
(`within_of_stops_stringText`).
-/
namespace Friendship.Json

namespace Cursor

theorem rest_advance (c : Cursor) : c.advance.rest = c.rest.tail := by
  cases h : c.rest with
  | nil => simp [advance, h]
  | cons b rest =>
    simp only [advance, h]
    split <;> rfl

@[simp] theorem rest_forward (c : Cursor) (n : Nat) : (c.forward n).rest = c.rest.drop n := by
  induction n generalizing c with
  | zero => rfl
  | succ n ih => simp [forward, ih, rest_advance]

theorem length_advance {c : Cursor} {b : UInt8} (h : c.rest.head? = some b) :
    c.advance.rest.length + 1 = c.rest.length := by
  obtain ⟨rest, hrest⟩ := List.head?_eq_some_iff.1 h
  simp [rest_advance, hrest]

end Cursor

namespace Reader

variable {c c' c'' : Cursor}

theorem rest_dropWhile (kind : UInt8 → Bool) (c : Cursor) :
    (dropWhile kind c.rest c).rest = c.rest.dropWhile kind := by
  generalize hbs : c.rest = bs
  induction bs generalizing c with
  | nil => exact hbs
  | cons b rest ih =>
    have hrest : c.advance.rest = rest := by simp [Cursor.rest_advance, hbs]
    cases hkind : kind b with
    | true => simp [dropWhile, hkind, ih c.advance hrest]
    | false => simp [dropWhile, hkind, hbs]

theorem rest_behind (kind : UInt8 → Bool) (c : Cursor) :
    (behind kind c).rest = c.rest.dropWhile kind := rest_dropWhile kind c

theorem length_behind_le (kind : UInt8 → Bool) (c : Cursor) :
    (behind kind c).rest.length ≤ c.rest.length := by
  rw [rest_behind]
  exact (List.dropWhile_sublist kind).length_le

theorem reads_skips {bs : List UInt8} {u : Unit} :
    Reads (forM bs fun _ => skip) c u c' ↔ c.forward bs.length = c' := by
  induction bs generalizing c with
  | nil => simp [Cursor.forward]
  | cons b bs ih => simp [reads_bind, ih, Cursor.forward]

theorem isSome_of_mapM {β γ : Type} {f : β → Option γ} {bs : List β} {cs : List γ}
    (h : bs.mapM f = some cs) : ∀ b ∈ bs, (f b).isSome := by
  induction bs generalizing cs with
  | nil => simp
  | cons b bs ih =>
    rw [List.mapM_cons, Option.bind_eq_bind, Option.bind_eq_some_iff] at h
    obtain ⟨c, hc, h⟩ := h
    obtain ⟨rest, hrest, -⟩ := Option.bind_eq_some_iff.1 h
    simpa [hc] using ih hrest

/-- Four hexadecimal digits are read. -/
theorem digits_of_reads_hexEscape {n : Nat} (h : Reads hexEscape c n c') :
    c' = c.forward 4 ∧ 4 ≤ c.rest.length ∧
      ∀ b ∈ c.rest.take 4, (Text.Hex.value? (Char.ofNat b.toNat)).isSome := by
  simp only [hexEscape, reads_bind, reads_get, List.forM_eq_forM, reads_skips] at h
  obtain ⟨_, _, ⟨rfl, rfl⟩, u, c₁, hskips, h⟩ := h
  split at h
  · simp [reads_bind] at h
  · rename_i hlength
    rw [List.length_take] at hlength
    have hfour : 4 ≤ c.rest.length := by omega
    rw [List.length_take_of_le hfour] at hskips
    split at h
    · rename_i values hvalues
      obtain ⟨-, rfl⟩ := reads_pure.1 h
      exact ⟨hskips.symm, hfour, isSome_of_mapM hvalues⟩
    · simp at h

theorem eq_ascii_of_ofNat {b : UInt8} {ch : Char} (h : Char.ofNat b.toNat = ch) : b = ascii ch := by
  rw [← h, ascii, Text.toNat_ofNat_byte, UInt8.ofNat_toNat]

/-- Whether a byte behind a backslash is all of an escape. -/
def isShortEscape (b : UInt8) : Bool :=
  Char.ofNat b.toNat ∈ ['"', '\\', '/', 'b', 'f', 'n', 'r', 't']

/-- A string ends at a cursor: its inside begins at another one. -/
inductive StringEnds : Cursor → Cursor → Prop
  | close {c : Cursor} (hquote : (behind isPlain c).rest.head? = some 34) :
      StringEnds c (behind isPlain c).advance
  | short {c c' : Cursor} {b : UInt8} (hbackslash : (behind isPlain c).rest.head? = some 92)
      (hb : (behind isPlain c).advance.rest.head? = some b) (hshort : isShortEscape b = true)
      (hends : StringEnds (behind isPlain c).advance.advance c') : StringEnds c c'
  | unicode {c c₁ c' : Cursor} {n : Nat} (hbackslash : (behind isPlain c).rest.head? = some 92)
      (hb : (behind isPlain c).advance.rest.head? = some 117)
      (hhex : Reads hexEscape (behind isPlain c).advance.advance n c₁)
      (hends : StringEnds c₁ c') : StringEnds c c'

theorem stringEnds_of_reads {fuel : Nat} {u : Unit} (h : Reads (skipString fuel) c u c') :
    StringEnds c c' := by
  induction fuel generalizing c with
  | zero => simp [skipString] at h
  | succ fuel ih =>
    simp only [skipString, reads_bind, reads_skipWhile, reads_peek] at h
    obtain ⟨_, _, rfl, _, _, ⟨rfl, rfl⟩, h⟩ := h
    split at h
    · simp at h
    · rename_i hquote
      obtain rfl := reads_skip.1 h
      exact .close hquote
    · rename_i hbackslash
      simp only [reads_bind, reads_skip, reads_peek] at h
      obtain ⟨_, _, rfl, _, _, ⟨rfl, rfl⟩, h⟩ := h
      split at h
      · simp at h
      · rename_i b hb
        simp only [reads_bind, reads_skip] at h
        obtain ⟨_, _, rfl, h⟩ := h
        split at h
        · rename_i hu
          subst hu
          obtain ⟨n, c₁, hhex, h⟩ := reads_bind.1 h
          exact .unicode hbackslash hb hhex (ih h)
        · split at h
          · rename_i hshort
            exact .short hbackslash hb (by simpa [isShortEscape] using hshort) (ih h)
          · simp at h
    · simp at h

/-- A backslash and the byte behind it are no longer ahead. -/
theorem length_behind_escape {b : UInt8} (hbackslash : (behind isPlain c).rest.head? = some 92)
    (hb : (behind isPlain c).advance.rest.head? = some b) :
    (behind isPlain c).advance.advance.rest.length + 2 ≤ c.rest.length := by
  have hplain := length_behind_le isPlain c
  have hfirst := Cursor.length_advance hbackslash
  have hsecond := Cursor.length_advance hb
  omega

/-- A string is skipped with as much fuel as there are bytes. -/
theorem StringEnds.reads {fuel : Nat} (h : StringEnds c c') (hfuel : c.rest.length < fuel) :
    Reads (skipString fuel) c () c' := by
  induction h generalizing fuel with
  | close hquote =>
    obtain _ | fuel := fuel
    · omega
    · simp only [skipString, reads_bind, reads_skipWhile, reads_peek]
      exact ⟨(), _, rfl, _, _, ⟨hquote, rfl⟩, reads_skip.2 rfl⟩
  | @short c c' b hbackslash hb hshort hends ih =>
    obtain _ | fuel := fuel
    · omega
    · have hlength : (behind isPlain c).advance.advance.rest.length < fuel := by
        have := length_behind_escape hbackslash hb
        omega
      have hother : b ≠ ascii 'u' := by
        rintro rfl
        exact absurd hshort (by decide)
      simp only [skipString, reads_bind, reads_skipWhile, reads_peek]
      refine ⟨(), _, rfl, _, _, ⟨hbackslash, rfl⟩, ?_⟩
      simp only [reads_bind, reads_skip, reads_peek]
      refine ⟨(), _, rfl, _, _, ⟨hb, rfl⟩, ?_⟩
      simp only [reads_bind, reads_skip]
      refine ⟨(), _, rfl, ?_⟩
      rw [if_neg hother, if_pos (by simpa [isShortEscape] using hshort)]
      exact ih hlength
  | @unicode c c₁ c' n hbackslash hb hhex hends ih =>
    obtain _ | fuel := fuel
    · omega
    · have hlength : c₁.rest.length < fuel := by
        have := length_behind_escape hbackslash hb
        obtain ⟨rfl, -⟩ := digits_of_reads_hexEscape hhex
        simp only [Cursor.rest_forward, List.length_drop]
        omega
      simp only [skipString, reads_bind, reads_skipWhile, reads_peek]
      refine ⟨(), _, rfl, _, _, ⟨hbackslash, rfl⟩, ?_⟩
      simp only [reads_bind, reads_skip, reads_peek]
      refine ⟨(), _, rfl, _, _, ⟨hb, rfl⟩, ?_⟩
      simp only [reads_bind, reads_skip]
      refine ⟨(), _, rfl, ?_⟩
      rw [if_pos (by decide)]
      exact reads_bind.2 ⟨n, c₁, hhex, ih hlength⟩

/-- A string has one end. -/
theorem StringEnds.unique (h : StringEnds c c') (h' : StringEnds c c'') : c' = c'' :=
  ((h.reads (Nat.lt_succ_self _)).unique (h'.reads (Nat.lt_succ_self _))).2

/-! ### Strings that are read -/

theorem behind_eq_self {kind : UInt8 → Bool} {b : UInt8} (h : c.rest.head? = some b)
    (hb : kind b = false) : behind kind c = c := by
  obtain ⟨rest, hrest⟩ := List.head?_eq_some_iff.1 h
  simp [behind, hrest, dropWhile, hb]

theorem kind_head_behind {kind : UInt8 → Bool} {b : UInt8}
    (h : (behind kind c).rest.head? = some b) : kind b = false := by
  rw [rest_behind] at h
  have hhead := List.head?_dropWhile_not kind c.rest
  rw [h] at hhead
  simpa using hhead

theorem behind_behind (kind : UInt8 → Bool) (c : Cursor) :
    behind kind (behind kind c) = behind kind c := by
  cases hhead : (behind kind c).rest.head? with
  | none =>
    have hnil : (behind kind c).rest = [] := List.head?_eq_none_iff.1 hhead
    generalize behind kind c = d at hnil
    simp [behind, hnil, dropWhile]
  | some b => exact behind_eq_self hhead (kind_head_behind hhead)

theorem behind_advance {kind : UInt8 → Bool} {b : UInt8} (h : c.rest.head? = some b)
    (hb : kind b = true) : behind kind c.advance = behind kind c := by
  obtain ⟨rest, hrest⟩ := List.head?_eq_some_iff.1 h
  simp [behind, Cursor.rest_advance, hrest, dropWhile, hb]

theorem stringEnds_short_iff {b : UInt8} (hbackslash : (behind isPlain c).rest.head? = some 92)
    (hb : (behind isPlain c).advance.rest.head? = some b) (hshort : isShortEscape b = true) :
    StringEnds c c' ↔ StringEnds (behind isPlain c).advance.advance c' := by
  constructor
  · rintro (hquote | ⟨-, -, -, hends⟩ | ⟨-, hu, -, -⟩)
    · exact absurd (hbackslash.symm.trans hquote) (by decide)
    · exact hends
    · obtain rfl : b = 117 := by simpa using hb.symm.trans hu
      exact absurd hshort (by decide)
  · exact .short hbackslash hb hshort

theorem stringEnds_unicode_iff {n : Nat} {c₁ : Cursor}
    (hbackslash : (behind isPlain c).rest.head? = some 92)
    (hu : (behind isPlain c).advance.rest.head? = some 117)
    (hhex : Reads hexEscape (behind isPlain c).advance.advance n c₁) :
    StringEnds c c' ↔ StringEnds c₁ c' := by
  constructor
  · rintro (hquote | ⟨-, hb, hshort, -⟩ | ⟨-, -, hhex', hends⟩)
    · exact absurd (hbackslash.symm.trans hquote) (by decide)
    · obtain rfl := Option.some.inj (hu.symm.trans hb)
      exact absurd hshort (by decide)
    · exact (hhex.unique hhex').2 ▸ hends
  · exact .unicode hbackslash hu hhex

theorem reads_pairByte {ch : Char} {u : Unit} :
    Reads (pairByte ch) c u c' ↔ c.rest.head? = some (ascii ch) ∧ c.advance = c' := by
  simp only [pairByte, reads_bind, reads_peek]
  constructor
  · rintro ⟨_, _, ⟨rfl, rfl⟩, h⟩
    split at h
    · simp at h
    · simp only [reads_bind, reads_skip] at h
      obtain ⟨_, _, rfl, h⟩ := h
      split at h
      · simp at h
      · simp_all
  · rintro ⟨hhead, rfl⟩
    refine ⟨_, _, ⟨rfl, rfl⟩, ?_⟩
    simp [hhead]

theorem fails_pairByte {ch : Char} :
    Fails (pairByte ch) c c' ↔ c.rest.head? = none ∧ c = c' ∨
      ∃ b, c.rest.head? = some b ∧ b ≠ ascii ch ∧ c.advance = c' := by
  simp only [pairByte, fails_bind, reads_peek, not_fails_peek, false_or]
  constructor
  · rintro ⟨_, _, ⟨rfl, rfl⟩, h⟩
    split at h
    · simp_all
    · rename_i b hb
      simp only [fails_bind, reads_skip, not_fails_skip, false_or] at h
      obtain ⟨_, _, rfl, h⟩ := h
      split at h
      · simp_all
      · simp at h
  · rintro (⟨hnone, rfl⟩ | ⟨b, hb, hne, rfl⟩)
    · exact ⟨_, _, ⟨rfl, rfl⟩, by simp [hnone]⟩
    · exact ⟨_, _, ⟨rfl, rfl⟩, by simp [hb, hne, fails_bind]⟩

/-- A string goes on behind an escape that is read. -/
theorem stringEnds_escape_iff {bytes : List UInt8} {c₁ : Cursor}
    (hbackslash : (behind isPlain c).rest.head? = some 92)
    (h : Reads escape (behind isPlain c).advance bytes c₁) :
    StringEnds c c' ↔ StringEnds c₁ c' := by
  simp only [escape, reads_bind, reads_peek] at h
  obtain ⟨_, _, ⟨rfl, rfl⟩, h⟩ := h
  split at h
  · simp at h
  · rename_i b hb
    simp only [reads_bind, reads_skip] at h
    obtain ⟨_, _, rfl, h⟩ := h
    split at h
    case h_9 hu =>
      obtain rfl := eq_ascii_of_ofNat hu
      simp only [unicodeEscape, reads_bind] at h
      obtain ⟨n, c₂, hhex, h⟩ := h
      rw [stringEnds_unicode_iff hbackslash hb hhex]
      split at h
      · simp [reads_bind] at h
      · split at h
        · simp only [reads_bind, reads_pairByte] at h
          obtain ⟨_, _, ⟨hbackslash', rfl⟩, _, _, ⟨hu', rfl⟩, m, c₃, hhex', h⟩ := h
          have hend : c₃ = c₁ := by
            split at h
            · simp at h
            · exact (reads_pure.1 h).2
          have hself : behind isPlain c₂ = c₂ := behind_eq_self hbackslash' rfl
          subst hend
          exact stringEnds_unicode_iff (hself.symm ▸ hbackslash') (hself.symm ▸ hu')
            (hself.symm ▸ hhex')
        · obtain ⟨-, rfl⟩ := reads_pure.1 h
          rfl
    case h_10 => simp at h
    all_goals
      rename_i hshort
      obtain ⟨-, rfl⟩ := reads_pure.1 h
      exact stringEnds_short_iff hbackslash hb (by simp [isShortEscape, hshort])

/-- The bytes of a string are read up to its closing quote. -/
theorem stringEnds_of_reads_stringBytes {acc bytes : List UInt8} {fuel : Nat} {c₁ : Cursor}
    (h : Reads (stringBytes acc fuel) c bytes c₁) : StringEnds c c₁.advance := by
  induction fuel generalizing c acc with
  | zero => simp [stringBytes] at h
  | succ fuel ih =>
    simp only [stringBytes, reads_bind, reads_peekWhile, reads_skipWhile, reads_peek] at h
    obtain ⟨_, _, ⟨rfl, rfl⟩, _, _, rfl, _, _, ⟨rfl, rfl⟩, h⟩ := h
    split at h
    · simp at h
    · rename_i hquote
      obtain ⟨-, rfl⟩ := reads_pure.1 h
      exact .close hquote
    · rename_i hbackslash
      simp only [reads_bind, reads_skip] at h
      obtain ⟨_, _, rfl, escaped, c₂, hescape, h⟩ := h
      exact (stringEnds_escape_iff hbackslash hescape).2 (ih h)
    · simp [reads_bind] at h

/-- The text of a string is read up to behind its closing quote. -/
theorem stringEnds_of_reads_stringText {s : String} (h : Reads stringText c s c') :
    StringEnds c c' := by
  simp only [stringText, reads_bind, reads_get, reads_skip] at h
  obtain ⟨_, _, ⟨rfl, rfl⟩, bytes, c₁, hbytes, _, _, ⟨rfl, rfl⟩, _, _, rfl, h⟩ := h
  have hends := stringEnds_of_reads_stringBytes hbytes
  split at h
  · exact (reads_pure.1 h).2 ▸ hends
  · simp [failInside] at h

/-! ### Strings that are not read to their end -/

/-- A cursor is in a string that ends at another one, or at that end. -/
def Within (c c' : Cursor) : Prop := c = c' ∨ StringEnds c c'

theorem StringEnds.advance {b : UInt8} (hb : c.rest.head? = some b) (hplain : isPlain b = true)
    (h : StringEnds c c') : StringEnds c.advance c' := by
  have hsame := behind_advance hb hplain
  cases h with
  | close hquote => exact hsame ▸ .close (hsame ▸ hquote)
  | short hbackslash hb hshort hends =>
    exact .short (hsame ▸ hbackslash) (hsame ▸ hb) hshort (hsame ▸ hends)
  | unicode hbackslash hb hhex hends =>
    exact .unicode (hsame ▸ hbackslash) (hsame ▸ hb) (hsame ▸ hhex) hends

/-- A byte that is no backslash belongs to the string, or is the quote at its end. -/
theorem within_of_fails_backslash {c₁ : Cursor} (h : Fails (pairByte '\\') c c₁)
    (hends : StringEnds c c') : Within c₁ c' := by
  obtain ⟨hnone, -⟩ | ⟨b, hb, hne, rfl⟩ := fails_pairByte.1 h
  · have hnil : c.rest = [] := List.head?_eq_none_iff.1 hnone
    cases hends <;> simp_all [rest_behind]
  · by_cases hplain : isPlain b = true
    · exact Or.inr (hends.advance hb hplain)
    · have hself : behind isPlain c = c := behind_eq_self hb (by simpa using hplain)
      cases hends with
      | close hquote => exact Or.inl (by rw [hself])
      | short hbackslash =>
        rw [hself, hb] at hbackslash
        exact absurd (Option.some.inj hbackslash) hne
      | unicode hbackslash =>
        rw [hself, hb] at hbackslash
        exact absurd (Option.some.inj hbackslash) hne

/-- A byte behind a backslash that is no u is all of an escape. -/
theorem within_of_fails_u {c₁ : Cursor} (hbackslash : c.rest.head? = some 92)
    (h : Fails (pairByte 'u') c.advance c₁) (hends : StringEnds c c') : Within c₁ c' := by
  have hself : behind isPlain c = c := behind_eq_self hbackslash rfl
  cases hends with
  | close hquote =>
    rw [hself, hbackslash] at hquote
    exact absurd hquote (by decide)
  | short _ hb hshort hends =>
    rw [hself] at hb hends
    obtain ⟨hnone, -⟩ | ⟨b, hb', hne, rfl⟩ := fails_pairByte.1 h
    · exact absurd (hb.symm.trans hnone) (Option.some_ne_none _)
    · exact Or.inr hends
  | unicode _ hu hhex hends =>
    rw [hself] at hu
    obtain ⟨hnone, -⟩ | ⟨b, hb', hne, rfl⟩ := fails_pairByte.1 h
    · exact absurd (hu.symm.trans hnone) (Option.some_ne_none _)
    · exact absurd (Option.some.inj (hb'.symm.trans hu)) hne

/-- Half a pair of surrogates takes bytes of the string for those of the other half. -/
theorem within_of_fails_unicodeEscape {n : Nat} {c₁ c₂ : Cursor} (hhex : Reads hexEscape c n c₂)
    (hends : StringEnds c₂ c') (h : Fails unicodeEscape c c₁) : Within c₁ c' := by
  simp only [unicodeEscape, fails_bind] at h
  obtain h | ⟨n', c₂', hhex', h⟩ := h
  · exact absurd h hhex.not_fails
  · obtain ⟨rfl, rfl⟩ := hhex.unique hhex'
    split at h
    · -- The code point is the second half of a pair.
      obtain rfl : c₂ = c₁ := by simpa [fails_bind] using h
      exact Or.inr hends
    · split at h
      · simp only [fails_bind, reads_pairByte] at h
        obtain h | ⟨_, _, ⟨hbackslash, rfl⟩, h | ⟨_, _, ⟨hu, rfl⟩, h⟩⟩ := h
        · exact within_of_fails_backslash h hends
        · exact within_of_fails_u hbackslash h hends
        · have hself : behind isPlain c₂ = c₂ := behind_eq_self hbackslash rfl
          cases hends with
          | close hquote =>
            rw [hself, hbackslash] at hquote
            exact absurd hquote (by decide)
          | short _ hb hshort =>
            rw [hself, hu] at hb
            obtain rfl := Option.some.inj hb
            exact absurd hshort (by decide)
          | unicode _ _ hhex' hends =>
            rw [hself] at hhex'
            obtain h | ⟨m, c₃, hhex'', h⟩ := h
            · exact absurd h hhex'.not_fails
            · obtain ⟨rfl, rfl⟩ := hhex'.unique hhex''
              split at h
              · obtain rfl := (by simpa [fails_bind] using h : _ = c₁)
                exact Or.inr hends
              · simp at h
      · simp at h

/-- Where an escape fails in a string that is one by its form, the string goes on or is over. -/
theorem within_of_fails_escape {c₁ : Cursor} (hbackslash : (behind isPlain c).rest.head? = some 92)
    (h : Fails escape (behind isPlain c).advance c₁) (hends : StringEnds c c') : Within c₁ c' := by
  simp only [escape, fails_bind, reads_peek, not_fails_peek, false_or] at h
  obtain ⟨_, _, ⟨rfl, rfl⟩, h⟩ := h
  cases hends with
  | close hquote => exact absurd (hbackslash.symm.trans hquote) (by decide)
  | short _ hb hshort =>
    rw [hb] at h
    simp only [fails_bind, reads_skip, not_fails_skip, false_or] at h
    obtain ⟨_, _, rfl, h⟩ := h
    split at h
    case h_9 hu =>
      obtain rfl := eq_ascii_of_ofNat hu
      exact absurd hshort (by decide)
    case h_10 => simp_all [isShortEscape]
    all_goals simp at h
  | unicode _ hu hhex hends =>
    rw [hu] at h
    simp only [fails_bind, reads_skip, not_fails_skip, false_or] at h
    obtain ⟨_, _, rfl, h⟩ := h
    exact within_of_fails_unicodeEscape hhex hends h

/-- A string that is one by its form is read until it is over, or not to its end. -/
theorem within_of_fails_stringBytes {acc : List UInt8} {fuel : Nat} {c₁ : Cursor}
    (h : Fails (stringBytes acc fuel) c c₁) (hends : StringEnds c c') : Within c₁ c' := by
  induction fuel generalizing c acc with
  | zero =>
    obtain rfl : c = c₁ := by simpa [stringBytes] using h
    exact Or.inr hends
  | succ fuel ih =>
    simp only [stringBytes, fails_bind, reads_peekWhile, reads_skipWhile, reads_peek,
      not_fails_peekWhile, not_fails_skipWhile, not_fails_peek, false_or] at h
    obtain ⟨_, _, ⟨rfl, rfl⟩, _, _, rfl, _, _, ⟨rfl, rfl⟩, h⟩ := h
    split at h
    · rename_i hnone
      cases hends <;> simp_all
    · simp at h
    · rename_i hbackslash
      simp only [fails_bind, reads_skip, not_fails_skip, false_or] at h
      obtain ⟨_, _, rfl, h | ⟨escaped, c₂, hescape, h⟩⟩ := h
      · exact within_of_fails_escape hbackslash h hends
      · exact ih h ((stringEnds_escape_iff hbackslash hescape).1 hends)
    · rename_i hquote hbackslash _
      cases hends <;> simp_all

theorem within_of_fails_stringText {c₁ : Cursor} (h : Fails stringText c c₁)
    (hends : StringEnds c c') : Within c₁ c' := by
  simp only [stringText, fails_bind, reads_get, reads_skip, not_fails_get, not_fails_skip,
    false_or] at h
  obtain ⟨_, _, ⟨rfl, rfl⟩, h | ⟨bytes, c₂, hbytes, _, _, ⟨rfl, rfl⟩, _, _, rfl, h⟩⟩ := h
  · exact within_of_fails_stringBytes h hends
  · -- The bytes were read in full, but they are no text.
    obtain rfl := (stringEnds_of_reads_stringBytes hbytes).unique hends
    split at h
    · simp at h
    · obtain rfl := (by simpa [failInside] using h : _ = c₁)
      exact Or.inl rfl

/-- Reading a string that is one by its form stops at its end or within it. -/
theorem within_of_stops_stringText {c₁ : Cursor} (hends : StringEnds c c')
    (h : Stops stringText c c₁) : Within c₁ c' := by
  obtain ⟨s, h⟩ | h := h
  · exact Or.inl ((stringEnds_of_reads_stringText h).unique hends)
  · exact within_of_fails_stringText h hends

end Reader
end Friendship.Json
