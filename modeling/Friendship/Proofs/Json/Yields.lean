import Friendship.Json.Value
import Friendship.Proofs.Account.IdText
import Friendship.Proofs.Json.Members
import Friendship.Proofs.Text.Bytes
import Friendship.Proofs.Text.Decimal
import Mathlib.Tactic.SplitIfs

/-!
# Texts of values that are read back

What a reader reads off the front of some bytes does not depend on where they stand (`Yields`). The
text of a string is read back (`yields_stringText`), and so is that of a whole number
(`yields_number`), provided that nothing follows that goes on with it.
-/
namespace Friendship.Json.Reader

open Text (bytes)

variable {α β : Type} {r : Reader α} {f : α → Reader β} {a : α} {b : β}
variable {bs mid rest : List UInt8}

/-- Where certain bytes are left a reader reads a value and leaves the rest of them. -/
def Yields (r : Reader α) (bs : List UInt8) (a : α) (rest : List UInt8) : Prop :=
  ∀ c : Cursor, c.rest = bs → ∃ c', Reads r c a c' ∧ c'.rest = rest

theorem Yields.bind (h : Yields r bs a mid) (h' : Yields (f a) mid b rest) :
    Yields (r >>= f) bs b rest := by
  intro c hc
  obtain ⟨c₁, hfirst, hmid⟩ := h c hc
  obtain ⟨c', hnext, hrest⟩ := h' c₁ hmid
  exact ⟨c', reads_bind.2 ⟨a, c₁, hfirst, hnext⟩, hrest⟩

theorem yields_pure (a : α) (bs : List UInt8) : Yields (pure a) bs a bs :=
  fun c hc => ⟨c, reads_pure.2 ⟨rfl, rfl⟩, hc⟩

theorem yields_peek (bs : List UInt8) : Yields peek bs bs.head? bs :=
  fun c hc => ⟨c, reads_peek.2 ⟨hc ▸ rfl, rfl⟩, hc⟩

theorem yields_skip (x : UInt8) (bs : List UInt8) : Yields skip (x :: bs) () bs :=
  fun c hc => ⟨c.advance, reads_skip.2 rfl, by rw [Cursor.rest_advance, hc, List.tail_cons]⟩

theorem yields_next (x : UInt8) (bs : List UInt8) : Yields next (x :: bs) (some x) bs :=
  (yields_peek _).bind ((yields_skip x bs).bind (yields_pure _ bs))

theorem yields_peekWhile (kind : UInt8 → Bool) (bs : List UInt8) :
    Yields (peekWhile kind) bs (bs.takeWhile kind) bs :=
  fun c hc => ⟨c, reads_peekWhile.2 ⟨hc ▸ rfl, rfl⟩, hc⟩

theorem yields_skipWhile (kind : UInt8 → Bool) (bs : List UInt8) :
    Yields (skipWhile kind) bs () (bs.dropWhile kind) :=
  fun c hc => ⟨behind kind c, reads_skipWhile.2 rfl, by rw [rest_behind, hc]⟩

/-- Nothing is left behind where no blank stands. -/
theorem yields_afterBlanks {x : UInt8} (hx : isBlank x = false) (bs : List UInt8) :
    Yields afterBlanks (x :: bs) (some x) (x :: bs) := by
  have hskip := yields_skipWhile isBlank (x :: bs)
  rw [List.dropWhile_cons_of_neg (by simp [hx])] at hskip
  exact hskip.bind (yields_peek _)

theorem yields_valueStart {x : UInt8} (hx : isBlank x = false) (bs : List UInt8) :
    Yields valueStart (x :: bs) x (x :: bs) :=
  (yields_afterBlanks hx bs).bind (yields_pure x _)

theorem yields_colon (bs : List UInt8) : Yields colon (58 :: bs) () bs :=
  (yields_afterBlanks rfl bs).bind (yields_skip 58 bs)

theorem yields_word (cs : List Char) (rest : List UInt8) :
    Yields (word cs) (cs.map ascii ++ rest) () rest := by
  induction cs with
  | nil => exact yields_pure () rest
  | cons c cs ih =>
    refine (yields_next (ascii c) _).bind ?_
    simpa using ih

theorem Yields.enclosed {ending : Reader Unit} (h : Yields r bs a mid)
    (hend : Yields ending mid () rest) : Yields (enclosed r ending) bs a rest := by
  intro c hc
  obtain ⟨c₁, hinside, hmid⟩ := h c hc
  obtain ⟨c', hending, hrest⟩ := hend c₁ hmid
  exact ⟨c', reads_enclosed.2 ⟨c₁, hinside, hending⟩, hrest⟩

/-- A whole text is read if its value is and nothing is left. -/
theorem Yields.document (h : Yields r bs a []) : document r bs = .ok a := by
  obtain ⟨c, hread, hrest⟩ := h ⟨bs, 1, 0⟩ rfl
  have hbehind : behind isBlank c = c := by simp [behind, hrest, dropWhile]
  refine document_eq_ok_iff.2 ⟨c, c, hread, ?_⟩
  simp [finish, reads_bind, hbehind, hrest]

/-! ### Strings -/

section Strings

variable {acc run bytes escaped : List UInt8} {fuel : Nat}

/-- A byte that stands for itself is read whether the bytes before it were or not. -/
theorem Yields.plain {x : UInt8} (hx : isPlain x = true)
    (h : Yields (stringBytes (acc ++ [x]) fuel) bs bytes rest) :
    Yields (stringBytes acc fuel) (x :: bs) bytes rest := by
  intro c hc
  have hhead : c.rest.head? = some x := by rw [hc, List.head?_cons]
  have hadvance : c.advance.rest = bs := by rw [Cursor.rest_advance, hc, List.tail_cons]
  obtain ⟨c', hread, hrest⟩ := h c.advance hadvance
  refine ⟨c', ?_, hrest⟩
  cases fuel with
  | zero => simp [stringBytes] at hread
  | succ fuel =>
    simp only [stringBytes, reads_bind, reads_peekWhile, reads_skipWhile, reads_peek,
      hadvance] at hread
    simp only [stringBytes, reads_bind, reads_peekWhile, reads_skipWhile, reads_peek, hc,
      List.takeWhile_cons_of_pos hx]
    simpa [behind_advance hhead hx] using hread

theorem Yields.plains (hplain : ∀ x ∈ run, isPlain x = true)
    (h : Yields (stringBytes (acc ++ run) fuel) bs bytes rest) :
    Yields (stringBytes acc fuel) (run ++ bs) bytes rest := by
  induction run generalizing acc with
  | nil => rwa [List.append_nil] at h
  | cons x run ih =>
    refine .plain (hplain x List.mem_cons_self) ?_
    refine ih (fun y hy => hplain y (List.mem_cons_of_mem x hy)) ?_
    rwa [List.append_assoc, List.singleton_append]

/-- A string goes on behind an escape. -/
theorem Yields.escape (hescape : Yields escape mid escaped bs)
    (h : Yields (stringBytes (acc ++ escaped) fuel) bs bytes rest) :
    Yields (stringBytes acc (fuel + 1)) (92 :: mid) bytes rest := by
  refine (yields_peekWhile isPlain _).bind ((yields_skipWhile isPlain _).bind ?_)
  rw [List.takeWhile_cons_of_neg (by decide), List.dropWhile_cons_of_neg (by decide)]
  refine (yields_peek _).bind ((yields_skip 92 mid).bind (hescape.bind ?_))
  rwa [List.append_nil]

theorem yields_close (acc : List UInt8) (fuel : Nat) (rest : List UInt8) :
    Yields (stringBytes acc (fuel + 1)) (34 :: rest) acc (34 :: rest) := by
  refine (yields_peekWhile isPlain _).bind ((yields_skipWhile isPlain _).bind ?_)
  rw [List.takeWhile_cons_of_neg (by decide), List.dropWhile_cons_of_neg (by decide)]
  refine (yields_peek _).bind ?_
  have hpure := yields_pure (acc ++ []) (34 :: rest)
  rwa [List.append_nil] at hpure ⊢

/-- Two digits behind two zeros tell the code of a control character. -/
theorem yields_hexEscape {m n : Nat} (hm : m < 16) (hn : n < 16) (rest : List UInt8) :
    Yields hexEscape (48 :: 48 :: ascii (Text.Hex.digit m) :: ascii (Text.Hex.digit n) :: rest)
      (16 * m + n) rest := by
  have hvalue : ∀ k : Fin 16,
      Text.Hex.value? (Char.ofNat (ascii (Text.Hex.digit k.val)).toNat) = some k.val := by decide
  have hzero : Text.Hex.value? (Char.ofNat 48) = some 0 := by decide
  have hdigits :
      [48, 48, ascii (Text.Hex.digit m), ascii (Text.Hex.digit n)].mapM
        (fun x : UInt8 => Text.Hex.value? (Char.ofNat x.toNat)) = some [0, 0, m, n] := by
    simp [List.mapM_cons, hzero, hvalue ⟨m, hm⟩, hvalue ⟨n, hn⟩]
  intro c hc
  have hfour :
      c.rest.take 4 = [48, 48, ascii (Text.Hex.digit m), ascii (Text.Hex.digit n)] := by
    rw [hc]
    rfl
  refine ⟨c.forward 4, ?_, by rw [Cursor.rest_forward, hc]; rfl⟩
  simp only [hexEscape, reads_bind, reads_get, List.forM_eq_forM, reads_skips]
  refine ⟨c, c, ⟨rfl, rfl⟩, (), c.forward 4, by rw [hfour]; rfl, ?_⟩
  rw [hfour, if_neg (by simp), hdigits]
  simp

theorem utf8_toNat (c : Char) : utf8 c.toNat = String.utf8EncodeChar c := by
  rw [utf8, Char.ofNat_toNat, Text.toUTF8_eq_bytes]
  simp [Text.bytes]

theorem yields_unicodeEscape {c : Char} (hc : c.toNat < 32) (rest : List UInt8) :
    Yields escape (117 :: 48 :: 48 :: ascii (Text.Hex.digit (c.toNat / 16)) ::
      ascii (Text.Hex.digit (c.toNat % 16)) :: rest) (String.utf8EncodeChar c) rest := by
  have hcode : 16 * (c.toNat / 16) + c.toNat % 16 = c.toNat := Nat.div_add_mod _ _
  refine (yields_peek _).bind ((yields_skip 117 _).bind ?_)
  refine (yields_hexEscape (by omega) (by omega) rest).bind ?_
  rw [hcode, if_neg (by omega), if_neg (by omega), utf8_toNat]
  exact yields_pure _ rest

/-- The bytes behind a backslash that are all of an escape which is written, and what each one
stands for. -/
def letters : List (UInt8 × UInt8) :=
  [(34, 34), (92, 92), (98, 8), (102, 12), (110, 10), (114, 13), (116, 9)]

theorem yields_letter {x y : UInt8} (h : (x, y) ∈ letters) (rest : List UInt8) :
    Yields escape (x :: rest) [y] rest := by
  refine (yields_peek _).bind ((yields_skip x rest).bind ?_)
  simp only [letters, List.mem_cons, List.not_mem_nil, or_false, Prod.mk.injEq] at h
  rcases h with ⟨rfl, rfl⟩ | ⟨rfl, rfl⟩ | ⟨rfl, rfl⟩ | ⟨rfl, rfl⟩ | ⟨rfl, rfl⟩ | ⟨rfl, rfl⟩ |
    ⟨rfl, rfl⟩
  all_goals exact yields_pure _ rest

/-- A character that is none of those escaped stands for itself. -/
theorem isPlain_of_mem {c : Char} (hquote : c ≠ '"') (hbackslash : c ≠ '\\') (hc : 32 ≤ c.toNat)
    {x : UInt8} (hx : x ∈ String.utf8EncodeChar c) : isPlain x = true := by
  have hplain : ∀ y : UInt8, y ≠ 34 → y ≠ 92 → 32 ≤ y → isPlain y = true := by
    intro y h34 h92 h32
    simp [isPlain, h34, h92, h32]
  by_cases hascii : c.toNat ≤ 0x7f
  · rw [Text.utf8EncodeChar_of_ascii hascii, List.mem_singleton] at hx
    subst x
    have hcode : (UInt8.ofNat c.toNat).toNat = c.toNat :=
      UInt8.toNat_ofNat_of_lt' (Nat.lt_of_le_of_lt hascii (by decide))
    have hne : ∀ d : Char, c ≠ d → d.toNat < UInt8.size →
        UInt8.ofNat c.toNat ≠ UInt8.ofNat d.toNat := by
      intro d hd hlt heq
      have hcodes := congrArg UInt8.toNat heq
      rw [hcode, UInt8.toNat_ofNat_of_lt' hlt] at hcodes
      exact hd (Char.toNat_inj.1 hcodes)
    refine hplain _ (hne '"' hquote (by decide)) (hne '\\' hbackslash (by decide)) ?_
    rw [UInt8.le_iff_toNat_le, hcode]
    exact hc
  · have hlarge := Text.ascii_lt_of_mem (by omega) hx
    rw [UInt8.lt_iff_toNat_lt] at hlarge
    have hbound : (0x7f : UInt8).toNat = 127 := rfl
    refine hplain x ?_ ?_ ?_
    · rintro rfl
      exact absurd hlarge (by decide)
    · rintro rfl
      exact absurd hlarge (by decide)
    · rw [UInt8.le_iff_toNat_le]
      exact Nat.le_trans (by decide) (Nat.le_of_lt hlarge)

/-- A character of a string stands there as itself, or as an escape that stands for it. -/
theorem escapeChar_cases (c : Char) :
    escapeChar c = [c] ∧ (∀ x ∈ String.utf8EncodeChar c, isPlain x = true) ∨
      ∃ front, Text.bytes (escapeChar c) = 92 :: front ∧
        ∀ rest, Yields escape (front ++ rest) (String.utf8EncodeChar c) rest := by
  unfold escapeChar
  split_ifs with hself hb hf hn hr ht hcontrol
  · rcases hself with rfl | rfl
    · exact .inr ⟨[34], by decide, yields_letter (y := 34) (by decide)⟩
    · exact .inr ⟨[92], by decide, yields_letter (y := 92) (by decide)⟩
  · subst hb
    exact .inr ⟨[98], by decide, yields_letter (y := 8) (by decide)⟩
  · subst hf
    exact .inr ⟨[102], by decide, yields_letter (y := 12) (by decide)⟩
  · subst hn
    exact .inr ⟨[110], by decide, yields_letter (y := 10) (by decide)⟩
  · subst hr
    exact .inr ⟨[114], by decide, yields_letter (y := 13) (by decide)⟩
  · subst ht
    exact .inr ⟨[116], by decide, yields_letter (y := 9) (by decide)⟩
  · have hascii : ∀ k : Fin 16, (Text.Hex.digit k.val).toNat ≤ 0x7f := by decide
    have hhigh := hascii ⟨c.toNat / 16, by omega⟩
    have hlow := hascii ⟨c.toNat % 16, by omega⟩
    refine .inr ⟨[117, 48, 48, ascii (Text.Hex.digit (c.toNat / 16)),
      ascii (Text.Hex.digit (c.toNat % 16))], ?_, yields_unicodeEscape hcontrol⟩
    rw [Text.bytes_cons_ascii (by decide), Text.bytes_cons_ascii (by decide),
      Text.bytes_cons_ascii (by decide), Text.bytes_cons_ascii (by decide),
      Text.bytes_cons_ascii hhigh, Text.bytes_cons_ascii hlow]
    rfl
  · obtain ⟨hquote, hbackslash⟩ := not_or.1 hself
    exact .inl ⟨rfl, fun x => isPlain_of_mem hquote hbackslash (by omega)⟩

/-- The escaped characters of a string are read up to its closing quote. -/
theorem yields_stringBytes (cs : List Char) (acc : List UInt8) {fuel : Nat}
    (hfuel : (Text.bytes (cs.flatMap escapeChar)).length < fuel) (rest : List UInt8) :
    Yields (stringBytes acc fuel) (Text.bytes (cs.flatMap escapeChar) ++ 34 :: rest)
      (acc ++ Text.bytes cs) (34 :: rest) := by
  induction cs generalizing acc fuel with
  | nil =>
    obtain _ | fuel := fuel
    · exact absurd hfuel (Nat.not_lt_zero _)
    · rw [Text.bytes_nil, List.append_nil]
      exact yields_close acc fuel rest
  | cons c cs ih =>
    rw [List.flatMap_cons, Text.bytes_append, List.length_append] at hfuel
    rw [List.flatMap_cons, Text.bytes_append, List.append_assoc, Text.bytes_cons]
    have hacc := List.append_assoc acc (String.utf8EncodeChar c) (Text.bytes cs)
    rw [← hacc]
    rcases escapeChar_cases c with ⟨hself, hplain⟩ | ⟨front, hfront, hescape⟩
    · rw [hself, Text.bytes_cons, Text.bytes_nil, List.append_nil]
      refine .plains hplain ?_
      exact ih _ (by omega)
    · rw [hfront, List.length_cons] at hfuel
      obtain _ | fuel := fuel
      · omega
      · rw [hfront, List.cons_append]
        refine .escape (hescape _) ?_
        exact ih _ (by omega)

/-- A string is read back. -/
theorem yields_stringText (s : String) (rest : List UInt8) :
    Yields stringText (Text.bytes (s.toList.flatMap escapeChar) ++ 34 :: rest) s rest := by
  intro c hc
  have hfuel : (Text.bytes (s.toList.flatMap escapeChar)).length < c.rest.length + 1 := by
    rw [hc, List.length_append]
    omega
  obtain ⟨c₁, hread, hquote⟩ := yields_stringBytes s.toList [] hfuel rest c hc
  refine ⟨c₁.advance, ?_, by rw [Cursor.rest_advance, hquote, List.tail_cons]⟩
  simp only [stringText, reads_bind, reads_get, reads_skip]
  refine ⟨c, c, ⟨rfl, rfl⟩, _, c₁, hread, c₁, c₁, ⟨rfl, rfl⟩, (), _, rfl, ?_⟩
  rw [List.nil_append, Text.text?_bytes]
  exact reads_pure.2 ⟨rfl, rfl⟩

end Strings

/-! ### Whole numbers -/

section Numbers

open Text.Number (natChars)

variable {cs : List Char} {positive : Bool} {m : Number}

/-- Nothing that goes on with a number stands at the front of bytes. -/
def Ended (rest : List UInt8) : Prop :=
  ∀ x, rest.head? = some x → isDigit x = false ∧ x ≠ 46 ∧ x ≠ 101 ∧ x ≠ 69

theorem ended_nil : Ended [] := nofun

theorem ended_cons {x : UInt8} (h : isDigit x = false ∧ x ≠ 46 ∧ x ≠ 101 ∧ x ≠ 69) :
    Ended (x :: rest) := by
  rintro _ ⟨⟩
  exact h

theorem toNat_ascii {c : Char} (h : Text.Number.isDigit c = true) : (ascii c).toNat = c.toNat := by
  have hbounds := Text.Number.toNat_of_isDigit h
  exact UInt8.toNat_ofNat_of_lt' (Nat.lt_of_le_of_lt hbounds.2 (by decide))

theorem isDigit_ascii {c : Char} (h : Text.Number.isDigit c = true) : isDigit (ascii c) = true := by
  have hbounds := Text.Number.toNat_of_isDigit h
  simp only [isDigit, Bool.and_eq_true, decide_eq_true_eq, UInt8.le_iff_toNat_le, toNat_ascii h]
  exact hbounds

theorem bytes_of_digits (h : ∀ c ∈ cs, Text.Number.isDigit c = true) :
    bytes cs = cs.map ascii := by
  induction cs with
  | nil => rfl
  | cons c cs ih =>
    have hbounds := Text.Number.toNat_of_isDigit (h c List.mem_cons_self)
    rw [Text.bytes_cons_ascii (Nat.le_trans hbounds.2 (by decide)), List.map_cons,
      ih fun d hd => h d (List.mem_cons_of_mem c hd)]
    rfl

/-- Digits are all gathered if the number they spell fits. -/
theorem gather_digits (h : ∀ c ∈ cs, Text.Number.isDigit c = true) {n : Nat}
    (hfits : Nat.ofDigitChars 10 cs n ≤ wordMax) (count : Nat) :
    gather n count (cs.map ascii) = (Nat.ofDigitChars 10 cs n, count + cs.length) := by
  induction cs generalizing n count with
  | nil => rfl
  | cons c cs ih =>
    have hdigit : digitValue (ascii c) = c.toNat - '0'.toNat := by
      rw [digitValue, toNat_ascii (h c List.mem_cons_self)]
      rfl
    rw [Nat.ofDigitChars_cons] at hfits ⊢
    rw [List.map_cons, gather, hdigit]
    have hgrown : 10 * n + (c.toNat - '0'.toNat) ≤ wordMax := by
      refine Nat.le_trans ?_ hfits
      rw [Nat.ofDigitChars_eq_ofDigitChars_zero]
      exact Nat.le_add_right_of_le (Nat.le_mul_of_pos_left _ (Nat.pow_pos (by decide)))
    rw [if_neg (Nat.not_lt.2 hgrown), ih (fun d hd => h d (List.mem_cons_of_mem c hd)) hfits,
      List.length_cons]
    congr 1
    omega

/-- A whole number of a sign that fits 64 bits. -/
structure Fits (positive : Bool) (n : Nat) : Prop where
  le_wordMax : n ≤ wordMax
  negative : positive = false → 0 < n ∧ n ≤ 2 ^ 63

/-- A number of a sign. -/
def signed (positive : Bool) (n : Nat) : Int := if positive then n else -n

theorem yields_afterWhole {n : Nat} (hn : Fits positive n) (hrest : Ended rest) :
    Yields (afterWhole positive n) rest (.integer (signed positive n)) rest := by
  refine (yields_peek rest).bind ?_
  split
  · rename_i hpoint
    exact absurd rfl (hrest _ hpoint).2.1
  · rename_i hexponent
    exact absurd rfl (hrest _ hexponent).2.2.1
  · rename_i hexponent
    exact absurd rfl (hrest _ hexponent).2.2.2
  · cases positive with
    | true => exact yields_pure _ rest
    | false =>
      have hbounds := hn.negative rfl
      rw [if_neg (by decide), if_neg (by omega)]
      exact yields_pure _ rest

/-- Zero has one digit. -/
theorem yields_number_zero (hn : Fits positive 0) (hrest : Ended rest) :
    Yields (number positive) (48 :: rest) (.integer (signed positive 0)) rest := by
  refine (yields_next 48 rest).bind ?_
  dsimp only
  rw [if_pos rfl]
  refine (yields_peek rest).bind ?_
  have hnone : ¬ (rest.head?.any isDigit) = true := by
    cases hhead : rest.head? with
    | none => decide
    | some x => simp [(hrest x hhead).1]
  rw [if_neg hnone]
  exact yields_afterWhole hn hrest

/-- A number whose first digit is no zero is read to its last digit. -/
theorem yields_number_digits {c : Char} {n : Nat}
    (hdigits : ∀ d ∈ c :: cs, Text.Number.isDigit d = true) (hc : c ≠ '0')
    (hvalue : Nat.ofDigitChars 10 (c :: cs) 0 = n) (hn : Fits positive n) (hrest : Ended rest) :
    Yields (number positive) (ascii c :: (cs.map ascii ++ rest)) (.integer (signed positive n))
      rest := by
  have hfirst := hdigits c List.mem_cons_self
  have hmore : ∀ d ∈ cs, Text.Number.isDigit d = true := fun d hd =>
    hdigits d (List.mem_cons_of_mem c hd)
  have hne : ascii c ≠ 48 := by
    intro heq
    have hcode := congrArg UInt8.toNat heq
    rw [toNat_ascii hfirst] at hcode
    exact hc (Char.toNat_inj.1 hcode)
  have hall : ∀ x ∈ cs.map ascii, isDigit x = true := by
    intro x hx
    obtain ⟨d, hd, rfl⟩ := List.mem_map.1 hx
    exact isDigit_ascii (hmore d hd)
  have hstop : rest.takeWhile isDigit = [] ∧ rest.dropWhile isDigit = rest := by
    cases rest with
    | nil => exact ⟨rfl, rfl⟩
    | cons x rest => simp [(hrest x rfl).1]
  have hdigit : digitValue (ascii c) = 10 * 0 + (c.toNat - '0'.toNat) := by
    rw [digitValue, toNat_ascii hfirst, Nat.mul_zero, Nat.zero_add]
    rfl
  rw [Nat.ofDigitChars_cons, ← hdigit] at hvalue
  refine (yields_next (ascii c) _).bind ?_
  dsimp only
  rw [if_neg hne, if_pos (isDigit_ascii hfirst)]
  refine (yields_peekWhile isDigit _).bind ?_
  rw [List.takeWhile_append_of_pos hall, hstop.1, List.append_nil,
    gather_digits hmore (hvalue ▸ hn.le_wordMax), hvalue]
  refine (yields_skipWhile isDigit _).bind ?_
  rw [List.dropWhile_append_of_pos hall, hstop.2, List.length_map, if_pos (Nat.zero_add _)]
  exact yields_afterWhole hn hrest

/-- A whole number is read back, its minus sign being behind. -/
theorem yields_number {n : Nat} (hn : Fits positive n) (hrest : Ended rest) :
    Yields (number positive) (bytes (natChars n) ++ rest) (.integer (signed positive n)) rest := by
  have hdigits : ∀ c ∈ natChars n, Text.Number.isDigit c = true := fun _ =>
    Text.Number.isDigit_of_mem_natChars
  by_cases hzero : n = 0
  · subst hzero
    exact yields_number_zero hn hrest
  · have hhead := Text.Number.head?_natChars_ne hzero
    have hvalue : Nat.ofDigitChars 10 (natChars n) 0 = n := Nat.ofDigitChars_ten_toDigits
    obtain ⟨c, cs, hcs⟩ : ∃ c cs, natChars n = c :: cs :=
      List.exists_cons_of_ne_nil Nat.toDigits_ne_nil
    rw [bytes_of_digits hdigits, hcs, List.map_cons, List.cons_append]
    rw [hcs] at hdigits hhead hvalue
    refine yields_number_digits hdigits ?_ hvalue hn hrest
    rintro rfl
    exact hhead rfl

end Numbers

end Friendship.Json.Reader
