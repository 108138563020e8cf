import Friendship.Json.Document
import Friendship.Proofs.Json.Yields

/-!
# Values that are read back from their text

A value without fractions whose whole numbers fit 64 bits is read back from its compact text if it
is not nested too deep (`document_text`). The induction is on the value: an element or member is
read back wherever it stands, followed by a comma or the end of what it is in.
-/
namespace Friendship.Json

/-- A value has no fractions, its whole numbers fit 64 bits, and lists and objects are nested at
most so deep. -/
inductive Value.Plain : Nat → Value → Prop
  | null {depth : Nat} : Plain depth .null
  | boolean {depth : Nat} (b : Bool) : Plain depth (.boolean b)
  | integer {depth : Nat} {n : Int} (hlow : -2 ^ 63 ≤ n) (hhigh : n < 2 ^ 64) :
      Plain depth (.integer n)
  | string {depth : Nat} (s : String) : Plain depth (.string s)
  | list {depth : Nat} {elements : List Value} (h : ∀ v ∈ elements, Plain depth v) :
      Plain (depth + 1) (.list elements)
  | object {depth : Nat} {members : List (String × Value)} (h : ∀ m ∈ members, Plain depth m.2) :
      Plain (depth + 1) (.object members)

namespace Value

/-- The elements behind the first one, each with its comma. -/
def furtherElements (vs : List Value) : List Char := vs.flatMap fun v => ',' :: v.chars

/-- A member is written as its name and its value. -/
def memberChars (m : String × Value) : List Char := quotedChars m.1 ++ ':' :: m.2.chars

/-- The members behind the first one, each with its comma. -/
def furtherMembers (ms : List (String × Value)) : List Char :=
  ms.flatMap fun m => ',' :: memberChars m

theorem furtherElements_cons (v : Value) (vs : List Value) :
    furtherElements (v :: vs) = ',' :: (v.chars ++ furtherElements vs) := rfl

theorem furtherMembers_cons (m : String × Value) (ms : List (String × Value)) :
    furtherMembers (m :: ms) = ',' :: (memberChars m ++ furtherMembers ms) := rfl

theorem elementsChars_cons (v : Value) (vs : List Value) :
    elementsChars (v :: vs) = v.chars ++ furtherElements vs := by
  induction vs generalizing v with
  | nil => simp [elementsChars, furtherElements]
  | cons w vs ih => simp [elementsChars, ih, furtherElements_cons]

theorem membersChars_cons (m : String × Value) (ms : List (String × Value)) :
    membersChars (m :: ms) = memberChars m ++ furtherMembers ms := by
  induction ms generalizing m with
  | nil => simp [membersChars, memberChars, furtherMembers]
  | cons w ms ih => simp [membersChars, memberChars, ih, furtherMembers_cons]

end Value

namespace Reader

open Text (bytes bytes_cons_ascii bytes_append)

variable {v : Value} {vs : List Value} {ms : List (String × Value)} {mid rest : List UInt8}
variable {fuel depth : Nat}

/-- A value is read back wherever its text stands, and where it stands an element may begin. -/
structure ReadBack (depth : Nat) (v : Value) : Prop where
  start : ∃ x bs, bytes v.chars = x :: bs ∧ isBlank x = false ∧ x ≠ 93
  yields : ∀ fuel rest, 2 * v.chars.length ≤ fuel → Ended rest →
    Yields (value fuel depth) (bytes v.chars ++ rest) v rest

/-- What stands before an element or member. -/
def separator (first : Bool) : List UInt8 := if first then [] else [44]

/-! ### Elements -/

theorem yields_endList (rest : List UInt8) : Yields endList (93 :: rest) () rest :=
  (yields_afterBlanks rfl rest).bind (yields_skip 93 rest)

theorem yields_noElement (first : Bool) (rest : List UInt8) :
    Yields (hasElement first) (93 :: rest) false (93 :: rest) :=
  (yields_afterBlanks rfl rest).bind (yields_pure false _)

theorem yields_hasElement (first : Bool) {x : UInt8} (hx : isBlank x = false) (hend : x ≠ 93)
    (bs : List UInt8) : Yields (hasElement first) (separator first ++ x :: bs) true (x :: bs) := by
  have hne : x ≠ ascii ']' := hend
  cases first with
  | true =>
    refine (yields_afterBlanks hx bs).bind ?_
    dsimp only
    rw [if_neg hne]
    exact yields_pure true _
  | false =>
    refine (yields_afterBlanks rfl _).bind ?_
    refine (yields_skip 44 _).bind ((yields_afterBlanks hx bs).bind ?_)
    dsimp only
    rw [if_neg hne]
    exact yields_pure true _

/-- An element is read back, and then those behind it. -/
theorem yields_element {first : Bool} (hv : ReadBack depth v) (hfuel : 2 * v.chars.length ≤ fuel)
    (hended : Ended mid) (hvs : Yields (elements fuel depth false) mid vs rest) :
    Yields (elements (fuel + 1) depth first) (separator first ++ (bytes v.chars ++ mid)) (v :: vs)
      rest := by
  have hread := hv.yields fuel mid hfuel hended
  obtain ⟨x, bs, hx, hblank, hend⟩ := hv.start
  rw [hx, List.cons_append] at hread ⊢
  refine (yields_hasElement first hblank hend _).bind (hread.bind (hvs.bind ?_))
  exact yields_pure (v :: vs) rest

theorem ended_furtherElements (vs : List Value) (rest : List UInt8) :
    Ended (bytes (Value.furtherElements vs) ++ 93 :: rest) := by
  cases vs with
  | nil => exact ended_cons (by decide)
  | cons v vs =>
    rw [Value.furtherElements_cons, bytes_cons_ascii (by decide)]
    exact ended_cons (by decide)

theorem yields_furtherElements (h : ∀ v ∈ vs, ReadBack depth v)
    (hfuel : 2 * (Value.furtherElements vs).length + 1 ≤ fuel) (rest : List UInt8) :
    Yields (elements fuel depth false) (bytes (Value.furtherElements vs) ++ 93 :: rest) vs
      (93 :: rest) := by
  obtain _ | fuel := fuel
  · omega
  · induction vs generalizing fuel with
    | nil => exact (yields_noElement false rest).bind (yields_pure [] _)
    | cons v vs ih =>
      rw [Value.furtherElements_cons, List.length_cons, List.length_append] at hfuel
      rw [Value.furtherElements_cons, bytes_cons_ascii (by decide), bytes_append, List.cons_append,
        List.append_assoc]
      obtain _ | fuel := fuel
      · omega
      · refine yields_element (h v List.mem_cons_self) (by omega) (ended_furtherElements vs rest) ?_
        exact ih (fun w hw => h w (List.mem_cons_of_mem v hw)) fuel (by omega)

/-- The elements of a list are read back. -/
theorem yields_elements (h : ∀ v ∈ vs, ReadBack depth v)
    (hfuel : 2 * (Value.elementsChars vs).length + 2 ≤ fuel) (rest : List UInt8) :
    Yields (elements fuel depth true) (bytes (Value.elementsChars vs) ++ 93 :: rest) vs
      (93 :: rest) := by
  obtain _ | fuel := fuel
  · omega
  · cases vs with
    | nil => exact (yields_noElement true rest).bind (yields_pure [] _)
    | cons v vs =>
      rw [Value.elementsChars_cons, List.length_append] at hfuel
      rw [Value.elementsChars_cons, bytes_append, List.append_assoc]
      refine yields_element (h v List.mem_cons_self) (by omega) (ended_furtherElements vs rest) ?_
      exact yields_furtherElements (fun w hw => h w (List.mem_cons_of_mem v hw)) (by omega) rest

/-! ### Members -/

theorem yields_endObject (rest : List UInt8) : Yields endObject (125 :: rest) () rest :=
  (yields_afterBlanks rfl rest).bind (yields_skip 125 rest)

theorem yields_noName (first : Bool) (rest : List UInt8) :
    Yields (hasName first) (125 :: rest) false (125 :: rest) :=
  (yields_afterBlanks rfl rest).bind (yields_pure false _)

theorem yields_hasName (first : Bool) (bs : List UInt8) :
    Yields (hasName first) (separator first ++ 34 :: bs) true (34 :: bs) := by
  cases first with
  | true => exact (yields_afterBlanks rfl bs).bind (yields_pure true _)
  | false =>
    refine (yields_afterBlanks rfl _).bind ?_
    exact (yields_skip 44 _).bind ((yields_afterBlanks rfl bs).bind (yields_pure true _))

theorem bytes_quotedChars (s : String) :
    bytes (quotedChars s) = 34 :: (bytes (s.toList.flatMap escapeChar) ++ [34]) := by
  rw [quotedChars, List.cons_append, bytes_cons_ascii (by decide), bytes_append]
  rfl

theorem bytes_memberChars (name : String) (v : Value) :
    bytes (Value.memberChars (name, v)) =
      34 :: (bytes (name.toList.flatMap escapeChar) ++ 34 :: 58 :: bytes v.chars) := by
  rw [Value.memberChars, bytes_append, bytes_quotedChars, bytes_cons_ascii (by decide)]
  simp [Char.toNat]

/-- A member is read back, and then those behind it. -/
theorem yields_member {first : Bool} {name : String} (hv : ReadBack depth v)
    (hfuel : 2 * v.chars.length ≤ fuel) (hended : Ended mid)
    (hms : Yields (members fuel depth false) mid ms rest) :
    Yields (members (fuel + 1) depth first)
      (separator first ++ (bytes (Value.memberChars (name, v)) ++ mid)) ((name, v) :: ms) rest := by
  have hread := hv.yields fuel mid hfuel hended
  rw [bytes_memberChars]
  simp only [List.cons_append, List.append_assoc]
  refine (yields_hasName first _).bind ((yields_skip 34 _).bind ?_)
  refine (yields_stringText name _).bind ((yields_colon _).bind (hread.bind (hms.bind ?_)))
  exact yields_pure ((name, v) :: ms) rest

theorem ended_furtherMembers (ms : List (String × Value)) (rest : List UInt8) :
    Ended (bytes (Value.furtherMembers ms) ++ 125 :: rest) := by
  cases ms with
  | nil => exact ended_cons (by decide)
  | cons m ms =>
    rw [Value.furtherMembers_cons, bytes_cons_ascii (by decide)]
    exact ended_cons (by decide)

theorem length_memberChars (m : String × Value) :
    m.2.chars.length + 3 ≤ (Value.memberChars m).length := by
  simp only [Value.memberChars, quotedChars, List.length_append, List.length_cons, List.length_nil]
  omega

theorem yields_furtherMembers (h : ∀ m ∈ ms, ReadBack depth m.2)
    (hfuel : 2 * (Value.furtherMembers ms).length + 1 ≤ fuel) (rest : List UInt8) :
    Yields (members fuel depth false) (bytes (Value.furtherMembers ms) ++ 125 :: rest) ms
      (125 :: rest) := by
  obtain _ | fuel := fuel
  · omega
  · induction ms generalizing fuel with
    | nil => exact (yields_noName false rest).bind (yields_pure [] _)
    | cons m ms ih =>
      rw [Value.furtherMembers_cons, List.length_cons, List.length_append] at hfuel
      rw [Value.furtherMembers_cons, bytes_cons_ascii (by decide), bytes_append, List.cons_append,
        List.append_assoc]
      have hlength := length_memberChars m
      obtain _ | fuel := fuel
      · omega
      · refine yields_member (h m List.mem_cons_self) (by omega) (ended_furtherMembers ms rest) ?_
        exact ih (fun w hw => h w (List.mem_cons_of_mem m hw)) fuel (by omega)

/-- The members of an object are read back. -/
theorem yields_members (h : ∀ m ∈ ms, ReadBack depth m.2)
    (hfuel : 2 * (Value.membersChars ms).length + 2 ≤ fuel) (rest : List UInt8) :
    Yields (members fuel depth true) (bytes (Value.membersChars ms) ++ 125 :: rest) ms
      (125 :: rest) := by
  obtain _ | fuel := fuel
  · omega
  · cases ms with
    | nil => exact (yields_noName true rest).bind (yields_pure [] _)
    | cons m ms =>
      rw [Value.membersChars_cons, List.length_append] at hfuel
      rw [Value.membersChars_cons, bytes_append, List.append_assoc]
      have hlength := length_memberChars m
      refine yields_member (h m List.mem_cons_self) (by omega) (ended_furtherMembers ms rest) ?_
      exact yields_furtherMembers (fun w hw => h w (List.mem_cons_of_mem m hw)) (by omega) rest

/-! ### Values -/

/-- A value with a text that begins with a byte of its own is read back if the reader that the byte
stands for reads it. -/
theorem ReadBack.of_cons (x : UInt8) (bs : List UInt8) (hchars : bytes v.chars = x :: bs)
    (hblank : isBlank x = false) (hend : x ≠ 93)
    (h : ∀ fuel rest, 2 * v.chars.length ≤ fuel + 1 → Ended rest →
      Yields (value (fuel + 1) depth) (x :: (bs ++ rest)) v rest) :
    ReadBack depth v where
  start := ⟨x, bs, hchars, hblank, hend⟩
  yields fuel rest hfuel hrest := by
    have hlength := congrArg List.length hchars
    rw [hchars, List.cons_append]
    obtain _ | fuel := fuel
    · have hnil : v.chars = [] := List.length_eq_zero_iff.1 (by omega)
      rw [hnil] at hchars
      cases hchars
    · exact h fuel rest hfuel hrest

theorem readBack_null (depth : Nat) : ReadBack depth .null := by
  refine .of_cons 110 [117, 108, 108] (by decide) rfl (by decide) fun fuel rest _ _ => ?_
  refine (yields_valueStart rfl _).bind ((yields_skip 110 _).bind ?_)
  exact (yields_word ['u', 'l', 'l'] rest).bind (yields_pure Value.null rest)

theorem readBack_boolean (depth : Nat) (b : Bool) : ReadBack depth (.boolean b) := by
  cases b with
  | true =>
    refine .of_cons 116 [114, 117, 101] (by decide) rfl (by decide) fun fuel rest _ _ => ?_
    refine (yields_valueStart rfl _).bind ((yields_skip 116 _).bind ?_)
    exact (yields_word ['r', 'u', 'e'] rest).bind (yields_pure (Value.boolean true) rest)
  | false =>
    refine .of_cons 102 [97, 108, 115, 101] (by decide) rfl (by decide) fun fuel rest _ _ => ?_
    refine (yields_valueStart rfl _).bind ((yields_skip 102 _).bind ?_)
    exact (yields_word ['a', 'l', 's', 'e'] rest).bind (yields_pure (Value.boolean false) rest)

theorem readBack_string (depth : Nat) (s : String) : ReadBack depth (.string s) := by
  refine .of_cons 34 _ (bytes_quotedChars s) rfl (by decide) fun fuel rest _ _ => ?_
  rw [List.append_assoc]
  refine (yields_valueStart rfl _).bind ((yields_skip 34 _).bind ?_)
  exact (yields_stringText s rest).bind (yields_pure (Value.string s) rest)

/-- A number without a minus sign begins with a digit. -/
theorem readBack_natural (depth : Nat) {n : Nat} (h : n ≤ wordMax) :
    ReadBack depth (.integer n) := by
  have hdigits : ∀ c ∈ Text.Number.natChars n, Text.Number.isDigit c = true := fun _ =>
    Text.Number.isDigit_of_mem_natChars
  have hsame : (Value.integer n).chars = Text.Number.natChars n := rfl
  obtain ⟨c, cs, hcs⟩ : ∃ c cs, Text.Number.natChars n = c :: cs :=
    List.exists_cons_of_ne_nil Nat.toDigits_ne_nil
  have hbytes : bytes (Text.Number.natChars n) = ascii c :: cs.map ascii := by
    rw [bytes_of_digits hdigits, hcs, List.map_cons]
  have hc : isDigit (ascii c) = true := isDigit_ascii (hdigits c (hcs ▸ List.mem_cons_self))
  have hblank : isBlank (ascii c) = false := not_blank_of_isDigit hc
  have hend : ascii c ≠ 93 := by
    intro heq
    rw [heq] at hc
    exact absurd hc (by decide)
  refine .of_cons _ _ (hsame ▸ hbytes) hblank hend fun fuel rest _ hrest => ?_
  have hfits : Fits true n := ⟨h, nofun⟩
  have hread := yields_number hfits hrest
  rw [hbytes, List.cons_append] at hread
  refine (yields_valueStart hblank _).bind ?_
  rw [if_pos hc]
  exact hread.bind (yields_pure (Value.integer n) rest)

theorem readBack_negative (depth : Nat) {n : Nat} (h : n < 2 ^ 63) :
    ReadBack depth (.integer (.negSucc n)) := by
  have hchars : bytes (Value.integer (.negSucc n)).chars =
      45 :: bytes (Text.Number.natChars (n + 1)) := bytes_cons_ascii (by decide) _
  have hfits : Fits false (n + 1) := ⟨by unfold wordMax; omega, fun _ => by omega⟩
  refine .of_cons _ _ hchars rfl (by decide) fun fuel rest _ hrest => ?_
  refine (yields_valueStart rfl _).bind ((yields_skip 45 _).bind ?_)
  exact (yields_number hfits hrest).bind (yields_pure (Value.integer (.negSucc n)) rest)

theorem readBack_list (h : ∀ v ∈ vs, ReadBack depth v) : ReadBack (depth + 1) (.list vs) := by
  have hchars : bytes (Value.list vs).chars = 91 :: (bytes (Value.elementsChars vs) ++ [93]) := by
    rw [Value.chars, List.cons_append, bytes_cons_ascii (by decide), bytes_append]
    rfl
  refine .of_cons _ _ hchars rfl (by decide) fun fuel rest hfuel _ => ?_
  rw [Value.chars, List.length_append, List.length_cons, List.length_singleton] at hfuel
  rw [List.append_assoc, List.singleton_append]
  refine (yields_valueStart rfl _).bind ((yields_skip 91 _).bind ?_)
  refine Yields.bind (.enclosed (yields_elements h (by omega) rest) (yields_endList rest)) ?_
  exact yields_pure (Value.list vs) rest

theorem readBack_object (h : ∀ m ∈ ms, ReadBack depth m.2) :
    ReadBack (depth + 1) (.object ms) := by
  have hchars : bytes (Value.object ms).chars =
      123 :: (bytes (Value.membersChars ms) ++ [125]) := by
    rw [Value.chars, List.cons_append, bytes_cons_ascii (by decide), bytes_append]
    rfl
  refine .of_cons _ _ hchars rfl (by decide) fun fuel rest hfuel _ => ?_
  rw [Value.chars, List.length_append, List.length_cons, List.length_singleton] at hfuel
  rw [List.append_assoc, List.singleton_append]
  refine (yields_valueStart rfl _).bind ((yields_skip 123 _).bind ?_)
  refine Yields.bind (.enclosed (yields_members h (by omega) rest) (yields_endObject rest)) ?_
  exact yields_pure (Value.object ms) rest

/-- A plain value is read back. -/
theorem readBack_of_plain (h : v.Plain depth) : ReadBack depth v := by
  induction h with
  | null => exact readBack_null _
  | boolean b => exact readBack_boolean _ b
  | @integer depth n hlow hhigh =>
    cases n with
    | ofNat n =>
      have hn : (n : Int) < 2 ^ 64 := hhigh
      exact readBack_natural depth (by unfold wordMax; omega)
    | negSucc n => exact readBack_negative depth (by omega)
  | string s => exact readBack_string _ s
  | list _ ih => exact readBack_list ih
  | object _ ih => exact readBack_object ih

end Reader

/-- The text of a plain value is read as the value. -/
theorem document_text {v : Value} (h : v.Plain Reader.depthLimit) :
    Reader.document Reader.anyValue v.text.toUTF8.data.toList = .ok v := by
  rw [Value.text, Text.toUTF8_ofList]
  refine Reader.Yields.document fun c hc => ?_
  have hlength := Text.length_le_length_bytes v.chars
  have hfuel : 2 * v.chars.length ≤ 2 * c.rest.length + 2 := by
    rw [hc]
    omega
  have hread := (Reader.readBack_of_plain h).yields _ [] hfuel Reader.ended_nil
  rw [List.append_nil] at hread
  obtain ⟨c', hvalue, hrest⟩ := hread c hc
  refine ⟨c', ?_, hrest⟩
  exact Reader.reads_bind.2 ⟨c, c, Reader.reads_get.2 ⟨rfl, rfl⟩, hvalue⟩

end Friendship.Json
