import Friendship.Proofs.Account.IdText

/-!
# The spellings of an id

An id is read from four spellings of its digits and from no other text: `readChars_eq_ok_iff`. What
is around the digits settles where they are looked for (`unwrapped_cases`), the hyphens have four
places (`eq_hyphenated`), and the text that is written for an id is one of the spellings
(`chars_eq_hyphenated`).
-/
namespace Friendship

namespace Text.Hex

theorem take_ofBytes (n : Nat) (bs : List UInt8) :
    (ofBytes bs).take (2 * n) = ofBytes (bs.take n) := by
  induction n generalizing bs with
  | zero => rfl
  | succ n ih =>
    cases bs with
    | nil => rfl
    | cons b bs => simpa [ofBytes, ofByte, Nat.mul_succ] using ih bs

theorem drop_ofBytes (n : Nat) (bs : List UInt8) :
    (ofBytes bs).drop (2 * n) = ofBytes (bs.drop n) := by
  induction n generalizing bs with
  | zero => rfl
  | succ n ih =>
    cases bs with
    | nil => rfl
    | cons b bs => simpa [ofBytes, ofByte, Nat.mul_succ] using ih bs

theorem utf8Size_of_isDigit {c : Char} (h : isDigit c = true) : c.utf8Size = 1 := by
  have hle : c ≤ 'f' := by
    unfold isDigit value? at h
    split at h
    case isTrue hdigit => exact Char.le_trans hdigit.2 (by decide)
    case isFalse =>
      split at h
      case isTrue hlower => exact hlower.2
      case isFalse =>
        split at h
        case isTrue hupper => exact Char.le_trans hupper.2 (by decide)
        case isFalse => cases h
  have hval : c.val ≤ 0x7f := UInt32.le_trans hle (by decide)
  simp [Char.utf8Size, hval]

theorem isDigit_of_bytes? {cs : List Char} {bs : List UInt8} (h : bytes? cs = some bs) :
    ∀ c ∈ cs, isDigit c = true := by
  fun_induction bytes? cs generalizing bs with
  | case1 => simp
  | case2 => simp at h
  | case3 high low rest ih =>
    simp only [bind, Option.bind_eq_some_iff, pure, Option.some.injEq] at h
    obtain ⟨b, hb, bs', hbs, -⟩ := h
    simp only [byte?, bind, Option.bind_eq_some_iff] at hb
    obtain ⟨n, hn, m, hm, -⟩ := hb
    simp only [List.mem_cons, forall_eq_or_imp]
    exact ⟨by simp [isDigit, hn], by simp [isDigit, hm], ih hbs⟩

theorem ne_hyphen_of_isDigit {c : Char} (h : isDigit c = true) : c ≠ '-' := by
  rintro rfl
  cases h

end Text.Hex

namespace AccountId

open Text (Hex.isDigit Hex.bytes? Hex.ofBytes)

variable {id : AccountId} {cs digits : List Char}

/-- Digits in groups of 8, 4, 4, 4 and the rest, joined by hyphens. -/
def hyphenated (digits : List Char) : List Char :=
  digits.take 8 ++ '-' :: ((digits.drop 8).take 4 ++ '-' :: ((digits.drop 12).take 4 ++
    '-' :: ((digits.drop 16).take 4 ++ '-' :: digits.drop 20)))

/-- A text spells an id: by 32 digits, alone or hyphenated, and these also inside braces or after
`urn:uuid:` in any case. -/
inductive Spells (id : AccountId) : List Char → Prop
  | bare {digits : List Char} (h : ofDigits? digits = some id) : Spells id digits
  | grouped {digits : List Char} (h : ofDigits? digits = some id) : Spells id (hyphenated digits)
  | braced {digits : List Char} (h : ofDigits? digits = some id) :
    Spells id ('\x7b' :: (hyphenated digits ++ ['\x7d']))
  | urn {digits lead : List Char} (h : ofDigits? digits = some id)
    (hlead : lead.map Char.toLower = "urn:uuid:".toList) :
    Spells id (lead ++ hyphenated digits)

/-- The text that is written for an id spells it. -/
theorem chars_eq_hyphenated (id : AccountId) : id.chars = hyphenated (Hex.ofBytes id.bytes) := by
  have htake (n : Nat) (bs : List UInt8) := Text.Hex.take_ofBytes n bs
  have hdrop (n : Nat) := Text.Hex.drop_ofBytes n id.bytes
  simp only [hyphenated, chars, ← htake 4, ← htake 2, ← hdrop 4, ← hdrop 6, ← hdrop 8, ← hdrop 10]

theorem ofDigits?_ofBytes (id : AccountId) : ofDigits? (Hex.ofBytes id.bytes) = some id := by
  simp [ofDigits?, Text.Hex.bytes?_ofBytes, ofBytes?, id.length_bytes]

theorem spells_chars (id : AccountId) : id.Spells id.chars :=
  chars_eq_hyphenated id ▸ .grouped (ofDigits?_ofBytes id)

/-! ## Digits -/

theorem bytes?_of_ofDigits? (h : ofDigits? digits = some id) :
    Hex.bytes? digits = some id.bytes := by
  obtain ⟨bs, hbs, hid⟩ := Option.bind_eq_some_iff.1 h
  unfold ofBytes? at hid
  split at hid
  · cases hid
    exact hbs
  · cases hid

theorem length_of_ofDigits? (h : ofDigits? digits = some id) : digits.length = 32 := by
  rw [Text.Hex.length_bytes? (bytes?_of_ofDigits? h), id.length_bytes]

theorem isDigit_of_ofDigits? (h : ofDigits? digits = some id) {c : Char} (hc : c ∈ digits) :
    Hex.isDigit c = true :=
  Text.Hex.isDigit_of_bytes? (bytes?_of_ofDigits? h) c hc

theorem hyphen_not_mem (h : ofDigits? digits = some id) : '-' ∉ digits := fun hc =>
  Text.Hex.ne_hyphen_of_isDigit (isDigit_of_ofDigits? h hc) rfl

/-! ## Hyphens -/

theorem hyphens_eq_nil_iff {place : Nat} : hyphens place cs = [] ↔ '-' ∉ cs := by
  induction cs generalizing place with
  | nil => simp [hyphens]
  | cons c rest ih =>
    by_cases hc : c = '-'
    · simp [hyphens, hc]
    · simp [hyphens, hc, ih, Ne.symm hc]

/-- The first hyphen ends a front without any. -/
theorem hyphens_append {front : List Char} (h : '-' ∉ front) (place : Nat) (rest : List Char) :
    hyphens place (front ++ '-' :: rest) =
      (place + front.length) :: hyphens (place + front.length + 1) rest := by
  induction front generalizing place with
  | nil => simp [hyphens]
  | cons c front ih =>
    obtain ⟨hc, hfront⟩ := not_or.1 (mt List.mem_cons.2 h)
    simp only [List.cons_append, hyphens, Ne.symm hc, if_false, ih hfront, List.length_cons,
      Nat.add_right_comm place 1, ← Nat.add_assoc]

theorem exists_of_hyphens {place p : Nat} {ps : List Nat} (h : hyphens place cs = p :: ps) :
    ∃ front rest, cs = front ++ '-' :: rest ∧ '-' ∉ front ∧ p = place + front.length ∧
      hyphens (p + 1) rest = ps := by
  induction cs generalizing place with
  | nil => cases h
  | cons c rest ih =>
    by_cases hc : c = '-'
    · subst hc
      simp only [hyphens, if_true, List.cons.injEq] at h
      obtain ⟨rfl, hps⟩ := h
      exact ⟨[], rest, rfl, by simp, rfl, hps⟩
    · simp only [hyphens, hc, if_false] at h
      obtain ⟨front, rest', rfl, hfront, rfl, hps⟩ := ih h
      refine ⟨c :: front, rest', rfl, ?_, ?_, hps⟩
      · simp [Ne.symm hc, hfront]
      · simp only [List.length_cons]
        omega

theorem filter_of_not_mem (h : '-' ∉ cs) : cs.filter (· ≠ '-') = cs := by
  refine List.filter_eq_self.2 fun c hc => ?_
  have hne : c ≠ '-' := by
    rintro rfl
    exact h hc
  simpa using hne

/-- Where the hyphens have their places, the digits between them are grouped as they should be. -/
theorem eq_hyphenated (h : hyphens 0 cs = [8, 13, 18, 23]) :
    cs = hyphenated (cs.filter (· ≠ '-')) := by
  obtain ⟨a, cs₁, rfl, ha, hlena, h⟩ := exists_of_hyphens h
  obtain ⟨b, cs₂, rfl, hb, hlenb, h⟩ := exists_of_hyphens h
  obtain ⟨c, cs₃, rfl, hc, hlenc, h⟩ := exists_of_hyphens h
  obtain ⟨d, e, rfl, hd, hlend, h⟩ := exists_of_hyphens h
  have he := hyphens_eq_nil_iff.1 h
  have hall : (a ++ '-' :: (b ++ '-' :: (c ++ '-' :: (d ++ '-' :: e)))).filter (· ≠ '-') =
      a ++ (b ++ (c ++ (d ++ e))) := by
    simp only [List.filter_append, List.filter_cons, filter_of_not_mem ha, filter_of_not_mem hb,
      filter_of_not_mem hc, filter_of_not_mem hd, filter_of_not_mem he]
    simp
  have hlena : a.length = 8 := by omega
  have hlenb : b.length = 4 := by omega
  have hlenc : c.length = 4 := by omega
  have hlend : d.length = 4 := by omega
  rw [hall]
  simp [hyphenated, List.drop_append, hlena, hlenb, hlenc, hlend, List.drop_of_length_le]

/-- Between the hyphens stand the digits alone. -/
theorem hyphens_hyphenated (hlen : digits.length = 32) (hnone : '-' ∉ digits) :
    hyphens 0 (hyphenated digits) = [8, 13, 18, 23] := by
  have hfirst : '-' ∉ digits.take 8 := fun hmem => hnone (List.mem_of_mem_take hmem)
  have hnext : ∀ n, '-' ∉ (digits.drop n).take 4 := fun n hmem =>
    hnone (List.mem_of_mem_drop (List.mem_of_mem_take hmem))
  have hlast : '-' ∉ digits.drop 20 := fun hmem => hnone (List.mem_of_mem_drop hmem)
  unfold hyphenated
  rw [hyphens_append hfirst, hyphens_append (hnext 8), hyphens_append (hnext 12),
    hyphens_append (hnext 16), hyphens_eq_nil_iff.2 hlast]
  simp [hlen]

theorem filter_hyphenated (hnone : '-' ∉ digits) :
    (hyphenated digits).filter (· ≠ '-') = digits := by
  have hsplit : ∀ n, (digits.drop n).take 4 ++ digits.drop (n + 4) = digits.drop n := by
    intro n
    rw [← List.drop_drop]
    exact List.take_append_drop 4 (digits.drop n)
  have hhyphen : ∀ cs : List Char, ('-' :: cs).filter (· ≠ '-') = cs.filter (· ≠ '-') := by
    intro cs
    simp
  unfold hyphenated
  simp only [List.filter_append, hhyphen]
  simp only [← List.filter_append]
  rw [hsplit 16, hsplit 12, hsplit 8, List.take_append_drop, filter_of_not_mem hnone]

theorem mem_hyphenated {c : Char} (h : c ∈ hyphenated digits) : c = '-' ∨ c ∈ digits := by
  simp only [hyphenated, List.mem_append, List.mem_cons] at h
  rcases h with h | rfl | h | rfl | h | rfl | h | rfl | h
  · exact Or.inr (List.mem_of_mem_take h)
  · exact Or.inl rfl
  · exact Or.inr (List.mem_of_mem_drop (List.mem_of_mem_take h))
  · exact Or.inl rfl
  · exact Or.inr (List.mem_of_mem_drop (List.mem_of_mem_take h))
  · exact Or.inl rfl
  · exact Or.inr (List.mem_of_mem_drop (List.mem_of_mem_take h))
  · exact Or.inl rfl
  · exact Or.inr (List.mem_of_mem_drop h)

/-! ## What is read -/

theorem firstForeign?_eq_none_iff {place : Nat} :
    firstForeign? place cs = none ↔ ∀ c ∈ cs, c = '-' ∨ Hex.isDigit c = true := by
  induction cs generalizing place with
  | nil => simp [firstForeign?]
  | cons c rest ih =>
    by_cases hc : c = '-' ∨ Hex.isDigit c = true
    · simp [firstForeign?, hc, ih]
    · simp [firstForeign?, hc]

theorem misplaced?_eq_none_iff {p q r s : Nat} :
    misplaced? [(0, p, 0, 8), (1, q, 9, 4), (2, r, 14, 4), (3, s, 19, 4)] = none ↔
      [p, q, r, s] = [8, 13, 18, 23] := by
  simp only [misplaced?]
  split
  · split
    · split
      · split <;> simp_all
      · simp_all
    · simp_all
  · simp_all

/-- The part that has to hold digits and hyphens is read if it is the digits in their groups, or
where that will do the digits alone. -/
theorem Body.read_eq_ok_iff {b : Body} :
    b.read = .ok id ↔ ∃ digits, ofDigits? digits = some id ∧
      (b.chars = AccountId.hyphenated digits ∨ b.chars = digits ∧ b.bare = true) := by
  constructor
  · intro h
    unfold Body.read at h
    split at h
    case h_1 => cases h
    case h_2 =>
      dsimp only at h
      split at h
      case h_1 p q r s hplaces =>
        split at h
        case h_1 => cases h
        case h_2 hwell =>
          split at h <;> cases h
          rename_i hid
          rw [misplaced?_eq_none_iff.1 hwell] at hplaces
          exact ⟨_, hid, Or.inl (eq_hyphenated hplaces)⟩
      case h_2 hplaces =>
        split at h
        case isTrue hbare =>
          split at h <;> cases h
          rename_i hid
          rw [filter_of_not_mem (hyphens_eq_nil_iff.1 hbare.1)] at hid
          exact ⟨_, hid, Or.inr ⟨rfl, hbare.2⟩⟩
        case isFalse => cases h
  · rintro ⟨digits, hid, hchars | ⟨hchars, hbare⟩⟩
    · have hnone := hyphen_not_mem hid
      have hforeign : firstForeign? b.before b.chars = none := by
        rw [hchars, firstForeign?_eq_none_iff]
        exact fun c hc => (mem_hyphenated hc).imp_right (isDigit_of_ofDigits? hid)
      have hplaces := hyphens_hyphenated (length_of_ofDigits? hid) hnone
      have hwell := misplaced?_eq_none_iff.2 (rfl : [8, 13, 18, 23] = [8, 13, 18, 23])
      unfold Body.read
      rw [hforeign]
      simp only [hchars, hplaces, hwell, filter_hyphenated hnone, hid]
    · have hnone := hyphen_not_mem hid
      have hforeign : firstForeign? b.before b.chars = none := by
        rw [hchars, firstForeign?_eq_none_iff]
        exact fun c hc => Or.inr (isDigit_of_ofDigits? hid hc)
      unfold Body.read
      rw [hforeign]
      simp only [hchars, hyphens_eq_nil_iff.2 hnone, filter_of_not_mem hnone, hid, hbare, and_self,
        if_true]

/-- A text is taken as it is, or it is what braces stand around, or it is what follows
`urn:uuid:`. -/
theorem unwrapped_cases (cs : List Char) :
    unwrapped cs = (cs, 0) ∨
    (∃ inner, cs = '\x7b' :: (inner ++ ['\x7d']) ∧ unwrapped cs = (inner, 1)) ∨
    ∃ lead rest, cs = lead ++ rest ∧ lead.map Char.toLower = "urn:uuid:".toList ∧
      unwrapped cs = (rest, 9) := by
  unfold unwrapped
  split
  case h_1 inner =>
    split
    case isTrue hlast =>
      obtain ⟨front, rfl⟩ := List.getLast?_eq_some_iff.1 hlast
      exact Or.inr (Or.inl ⟨front, rfl, by simp⟩)
    case isFalse => exact Or.inl rfl
  case h_2 =>
    split
    case h_1 rest hrest =>
      unfold afterUrn? at hrest
      split at hrest <;> cases hrest
      rename_i hlead
      exact Or.inr (Or.inr ⟨_, _, (List.take_append_drop 9 cs).symm, hlead, rfl⟩)
    case h_2 => exact Or.inl rfl

theorem chars_body (cs : List Char) :
    (body cs).chars = cs ∨
      (body cs).chars = (unwrapped cs).1 ∧ ((body cs).bare = true → (unwrapped cs).2 = 0) := by
  unfold body
  dsimp only
  split
  · exact Or.inl rfl
  · split
    · exact Or.inl rfl
    · split
      · exact Or.inr ⟨rfl, nofun⟩
      · exact Or.inr ⟨rfl, of_decide_eq_true⟩

/-- The part of a text that is read is the whole, or it has to be hyphenated and stands inside
braces or after `urn:uuid:`. -/
theorem body_cases (cs : List Char) :
    (body cs).chars = cs ∨
    (body cs).bare = false ∧
      (cs = '\x7b' :: ((body cs).chars ++ ['\x7d']) ∨
        ∃ lead, lead.map Char.toLower = "urn:uuid:".toList ∧ cs = lead ++ (body cs).chars) := by
  rcases chars_body cs with hwhole | ⟨hchars, hbare⟩
  · exact Or.inl hwhole
  rcases unwrapped_cases cs with hwhole | ⟨inner, hcs, hinner⟩ | ⟨lead, rest, hcs, hlead, hrest⟩
  · rw [hwhole] at hchars
    exact Or.inl hchars
  · rw [hinner] at hchars hbare
    rw [hchars]
    exact Or.inr ⟨Bool.eq_false_iff.2 fun h => Nat.succ_ne_zero 0 (hbare h), Or.inl hcs⟩
  · rw [hrest] at hchars hbare
    rw [hchars]
    exact Or.inr ⟨Bool.eq_false_iff.2 fun h => Nat.succ_ne_zero 8 (hbare h),
      Or.inr ⟨lead, hlead, hcs⟩⟩

theorem unwrapped_braced (inner : List Char) :
    unwrapped ('\x7b' :: (inner ++ ['\x7d'])) = (inner, 1) := by
  simp [unwrapped]

theorem unwrapped_urn {lead : List Char} (hlead : lead.map Char.toLower = "urn:uuid:".toList)
    (rest : List Char) : unwrapped (lead ++ rest) = (rest, 9) := by
  have hlen : lead.length = 9 := by simpa using congrArg List.length hlead
  unfold unwrapped
  split
  case h_1 inner heq =>
    -- What begins with a brace does not begin with a letter.
    have hfirst : (lead.map Char.toLower).head? = some 'u' := by rw [hlead]; rfl
    cases lead with
    | nil => cases hlen
    | cons c lead =>
      obtain rfl : c = '\x7b' := (List.cons.inj heq).1
      cases hfirst
  case h_2 =>
    simp [afterUrn?, List.take_left' hlen, List.drop_left' hlen, hlead]

/-! ## Sizes -/

theorem size_of_ascii (h : ∀ c ∈ cs, c.utf8Size = 1) :
    (cs.map Char.utf8Size).sum = cs.length := by
  induction cs with
  | nil => rfl
  | cons c rest ih =>
    obtain ⟨hc, hrest⟩ := List.forall_mem_cons.1 h
    simp only [List.map_cons, List.sum_cons, hc, ih hrest, List.length_cons]
    omega

theorem size_of_ofDigits? (h : ofDigits? digits = some id) :
    (digits.map Char.utf8Size).sum = 32 := by
  rw [size_of_ascii fun c hc => Text.Hex.utf8Size_of_isDigit (isDigit_of_ofDigits? h hc),
    length_of_ofDigits? h]

theorem size_hyphenated (h : ofDigits? digits = some id) :
    ((hyphenated digits).map Char.utf8Size).sum = 36 := by
  rw [size_of_ascii]
  · simp [hyphenated, length_of_ofDigits? h]
  · intro c hc
    rcases mem_hyphenated hc with rfl | hc
    · rfl
    · exact Text.Hex.utf8Size_of_isDigit (isDigit_of_ofDigits? h hc)

theorem utf8Size_of_toLower {c : Char} (h : c.toLower.utf8Size = 1) : c.utf8Size = 1 := by
  unfold Char.toLower at h
  split at h
  case isTrue hupper =>
    have hval : c.val ≤ 0x7f := UInt32.le_trans hupper.2 (by decide)
    simp [Char.utf8Size, hval]
  case isFalse => exact h

/-- What is `urn:uuid:` in some case has nine bytes. -/
theorem size_of_urn {lead : List Char} (h : lead.map Char.toLower = "urn:uuid:".toList) :
    (lead.map Char.utf8Size).sum = 9 := by
  have hlen : lead.length = 9 := by simpa using congrArg List.length h
  rw [size_of_ascii, hlen]
  intro c hc
  have hlower : c.toLower ∈ "urn:uuid:".toList := h ▸ List.mem_map_of_mem hc
  have hall : "urn:uuid:".toList.all (·.utf8Size == 1) = true := by decide
  exact utf8Size_of_toLower (beq_iff_eq.1 (List.all_eq_true.1 hall _ hlower))

/-- A text is read as an id exactly if it spells it. -/
theorem readChars_eq_ok_iff : readChars cs = .ok id ↔ id.Spells cs := by
  constructor
  · intro h
    unfold readChars at h
    dsimp only at h
    split at h
    case isTrue => cases h
    case isFalse =>
      obtain ⟨digits, hid, hchars⟩ := Body.read_eq_ok_iff.1 h
      rcases body_cases cs with hwhole | ⟨hbare, hcs | ⟨lead, hlead, hcs⟩⟩
      · rw [hwhole] at hchars
        rcases hchars with rfl | ⟨rfl, -⟩
        · exact .grouped hid
        · exact .bare hid
      · rcases hchars with hchars | ⟨-, hbare'⟩
        · rw [hcs, hchars]
          exact .braced hid
        · cases hbare.symm.trans hbare'
      · rcases hchars with hchars | ⟨-, hbare'⟩
        · rw [hcs, hchars]
          exact .urn hid hlead
        · cases hbare.symm.trans hbare'
  · intro h
    cases h with
    | bare hid =>
      have hsize := size_of_ofDigits? hid
      simp only [readChars, body, hsize]
      exact Body.read_eq_ok_iff.2 ⟨_, hid, Or.inr ⟨rfl, rfl⟩⟩
    | grouped hid =>
      have hsize := size_hyphenated hid
      simp only [readChars, body, hsize]
      exact Body.read_eq_ok_iff.2 ⟨_, hid, Or.inl rfl⟩
    | @braced digits hid =>
      have hsize : (('\x7b' :: (hyphenated digits ++ ['\x7d'])).map Char.utf8Size).sum = 38 := by
        simp [size_hyphenated hid]
        decide
      simp only [readChars, body, hsize, unwrapped_braced]
      exact Body.read_eq_ok_iff.2 ⟨_, hid, Or.inl rfl⟩
    | @urn digits lead hid hlead =>
      have hsize : ((lead ++ hyphenated digits).map Char.utf8Size).sum = 45 := by
        simp [size_hyphenated hid, size_of_urn hlead]
      simp only [readChars, body, hsize, unwrapped_urn hlead]
      exact Body.read_eq_ok_iff.2 ⟨_, hid, Or.inl rfl⟩

/-- The text that is written for an id is read as that id. -/
theorem readChars_chars (id : AccountId) : readChars id.chars = .ok id :=
  readChars_eq_ok_iff.2 (spells_chars id)

theorem read_eq_ok_iff {s : String} : read s = .ok id ↔ id.Spells s.toList :=
  readChars_eq_ok_iff

end AccountId
end Friendship
