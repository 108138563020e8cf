import Friendship.Proofs.Json.Skipped
import Mathlib.Data.List.Forall2

/-!
# Members of an object

An object is read member by member: `reads_entries_succ` takes one off. A shape reads the next
member, be it one of its own or not, by `Shape.entry`. A list that two shapes read is over for the
one with fewer members before an element (`hasElement_of_follows`).
-/
namespace Friendship.Json.Reader

variable {σ : Type} {shape : Shape σ} {s s' : σ} {c c' : Cursor} {first : Bool} {fuel : Nat}

/-- Reads what follows a name. -/
def Shape.entry (shape : Shape σ) (s : σ) (name : String) : Reader σ :=
  match shape.members.find? fun m => m.name == name with
  | none => do
    colon
    skipValue
    pure s
  | some m =>
    if m.given s then failValue (.duplicateField name)
    else do
      colon
      m.read s

theorem reads_entry_of_none {name : String}
    (hname : (shape.members.find? fun m => m.name == name) = none) :
    Reads (shape.entry s name) c s' c' ↔
      ∃ c₁, Reads colon c () c₁ ∧ Reads skipValue c₁ () c' ∧ s = s' := by
  simp only [Shape.entry, hname, reads_bind, reads_pure]
  constructor
  · rintro ⟨_, c₁, hcolon, _, _, hvalue, rfl, rfl⟩
    exact ⟨c₁, hcolon, hvalue, rfl⟩
  · rintro ⟨c₁, hcolon, hvalue, rfl⟩
    exact ⟨(), c₁, hcolon, (), c', hvalue, rfl, rfl⟩

theorem reads_entry_of_some {name : String} {m : Member σ}
    (hname : (shape.members.find? fun m => m.name == name) = some m) :
    Reads (shape.entry s name) c s' c' ↔
      m.given s = false ∧ ∃ c₁, Reads colon c () c₁ ∧ Reads (m.read s) c₁ s' c' := by
  simp only [Shape.entry, hname]
  constructor
  · intro h
    split at h
    · simp at h
    · rename_i hgiven
      obtain ⟨_, c₁, hcolon, hread⟩ := reads_bind.1 h
      exact ⟨by simpa using hgiven, c₁, hcolon, hread⟩
  · rintro ⟨hgiven, c₁, hcolon, hread⟩
    simp only [hgiven, Bool.false_eq_true, if_false]
    exact reads_bind.2 ⟨(), c₁, hcolon, hread⟩

theorem entries_succ : shape.entries (fuel + 1) first s = (do
    if ← hasName first then
      skip
      let name ← stringText
      let s ← shape.entry s name
      shape.entries fuel false s
    else
      match shape.members.find? fun m => m.required && !m.given s with
      | some m => failValue (.missingField m.name)
      | none => pure s) := by
  rw [Shape.entries]
  refine bind_congr fun more => ?_
  cases more with
  | false => rfl
  | true =>
    refine bind_congr fun _ => bind_congr fun name => ?_
    unfold Shape.entry
    cases shape.members.find? fun m => m.name == name with
    | none => simp
    | some m =>
      by_cases hgiven : m.given s = true
      · simp only [hgiven, if_true]
        rfl
      · simp [hgiven]

theorem reads_entries_succ :
    Reads (shape.entries (fuel + 1) first s) c s' c' ↔
      (Reads (hasName first) c false c' ∧
        (shape.members.find? fun m => m.required && !m.given s) = none ∧ s = s') ∨
      ∃ c₁ name c₂ s₁ c₃, Reads (hasName first) c true c₁ ∧ Reads stringText c₁.advance name c₂ ∧
        Reads (shape.entry s name) c₂ s₁ c₃ ∧ Reads (shape.entries fuel false s₁) c₃ s' c' := by
  simp only [entries_succ, reads_bind]
  constructor
  · rintro ⟨more, c₁, hmore, h⟩
    cases more with
    | false =>
      left
      simp only [Bool.false_eq_true, if_false] at h
      split at h
      · simp at h
      · rename_i hrequired
        obtain ⟨rfl, rfl⟩ := reads_pure.1 h
        exact ⟨hmore, hrequired, rfl⟩
    | true =>
      right
      simp only [if_true, reads_bind, reads_skip] at h
      obtain ⟨_, _, rfl, name, c₂, hname, s₁, c₃, hentry, h⟩ := h
      exact ⟨c₁, name, c₂, s₁, c₃, hmore, hname, hentry, h⟩
  · rintro (⟨hmore, hrequired, rfl⟩ | ⟨c₁, name, c₂, s₁, c₃, hmore, hname, hentry, h⟩)
    · refine ⟨false, c', hmore, ?_⟩
      simp [hrequired]
    · refine ⟨true, c₁, hmore, ?_⟩
      simp only [if_true, reads_bind, reads_skip]
      exact ⟨(), _, rfl, name, c₂, hname, s₁, c₃, hentry, h⟩

/-! ### Members that can be skipped -/

/-- What is read for a member can be skipped. -/
def Shape.Skippable (shape : Shape σ) : Prop :=
  ∀ m ∈ shape.members, ∀ s c s' c', Reads (m.read s) c s' c' → Reads skipValue c () c'

namespace Shape.Skippable

theorem entry (hshape : shape.Skippable) {name : String}
    (h : Reads (shape.entry s name) c s' c') :
    ∃ c₁, Reads colon c () c₁ ∧ Reads skipValue c₁ () c' := by
  cases hname : shape.members.find? fun m => m.name == name with
  | none =>
    obtain ⟨c₁, hcolon, hskip, -⟩ := (reads_entry_of_none hname).1 h
    exact ⟨c₁, hcolon, hskip⟩
  | some m =>
    obtain ⟨-, c₁, hcolon, hread⟩ := (reads_entry_of_some hname).1 h
    exact ⟨c₁, hcolon, hshape m (List.mem_of_find?_eq_some hname) _ _ _ _ hread⟩

/-- The members of an object stand, but for their names and strings, outside of strings. -/
theorem spans_entries (hshape : shape.Skippable) (h : Reads (shape.entries fuel first s) c s' c') :
    Spans .outside c c' .outside := by
  induction fuel generalizing c first s with
  | zero => simp [Shape.entries] at h
  | succ fuel ih =>
    rcases reads_entries_succ.1 h with
      ⟨hdone, -, -⟩ | ⟨c₁, name, c₂, s₁, c₃, hmore, hname, hentry, h⟩
    · exact (spans_of_reads_hasName hdone).1
    · obtain ⟨hspans, hquote⟩ := spans_of_reads_hasName hmore
      obtain ⟨c₄, hcolon, hskip⟩ := hshape.entry hentry
      have hspans₁ := Spans.advance (p := .outside) (hquote rfl) rfl
      have hspans₂ := spans_of_reads_stringText hname
      have hspans₃ := (spans_of_reads_colon hcolon).trans (spans_of_reads_skipValue hskip)
      exact hspans.trans (hspans₁.trans (hspans₂.trans (hspans₃.trans (ih h))))

end Shape.Skippable

/-! ### Whole texts -/

/-- A record is an object or a list. -/
theorem reads_decode :
    Reads (shape.decode s) c s' c' ↔
      (∃ c₁, (behind isBlank c).rest.head? = some (ascii '[') ∧
        Reads (shape.elements 0 shape.members s) (behind isBlank c).advance s' c₁ ∧
        Reads endList c₁ () c') ∨
      ∃ c₁, (behind isBlank c).rest.head? = some (ascii '\x7b') ∧
        Reads (shape.entries ((behind isBlank c).advance.rest.length + 1) true s)
          (behind isBlank c).advance s' c₁ ∧
        Reads endObject c₁ () c' := by
  simp only [Shape.decode, reads_placed, reads_bind, reads_valueStart]
  constructor
  · rintro ⟨b, _, ⟨hb, rfl⟩, h⟩
    split at h
    · rename_i hlist
      simp only [reads_bind, reads_skip, reads_enclosed] at h
      obtain ⟨_, _, rfl, c₁, helements, hend⟩ := h
      exact Or.inl ⟨c₁, hlist ▸ hb, helements, hend⟩
    · split at h
      · rename_i hobject
        simp only [reads_bind, reads_skip, reads_get, reads_enclosed] at h
        obtain ⟨_, _, rfl, _, _, ⟨rfl, rfl⟩, c₁, hentries, hend⟩ := h
        exact Or.inr ⟨c₁, hobject ▸ hb, hentries, hend⟩
      · exact absurd h not_reads_mismatch
  · rintro (⟨c₁, hlist, helements, hend⟩ | ⟨c₁, hobject, hentries, hend⟩)
    · refine ⟨_, _, ⟨hlist, rfl⟩, ?_⟩
      simp only [if_true, reads_bind, reads_skip, reads_enclosed]
      exact ⟨(), _, rfl, c₁, helements, hend⟩
    · refine ⟨_, _, ⟨hobject, rfl⟩, ?_⟩
      rw [if_neg (by decide)]
      simp only [if_true, reads_bind, reads_skip, reads_get, reads_enclosed]
      exact ⟨(), _, rfl, _, _, ⟨rfl, rfl⟩, c₁, hentries, hend⟩

theorem document_eq_ok_iff {α : Type} {r : Reader α} {bytes : List UInt8} {a : α} :
    document r bytes = .ok a ↔ ∃ c c', Reads r ⟨bytes, 1, 0⟩ a c ∧ Reads finish c () c' := by
  have hresult : document r bytes = (resultAt (do let a ← r; finish; pure a) ⟨bytes, 1, 0⟩).1 := rfl
  have hreads : (resultAt (do let a ← r; finish; pure a) ⟨bytes, 1, 0⟩).1 = .ok a ↔
      ∃ c', Reads (do let a ← r; finish; pure a) ⟨bytes, 1, 0⟩ a c' := by
    unfold Reads
    constructor
    · intro h
      exact ⟨_, Prod.ext h rfl⟩
    · rintro ⟨c', h⟩
      rw [h]
  rw [hresult, hreads]
  simp only [reads_bind, reads_pure]
  constructor
  · rintro ⟨c', _, c, hread, _, _, hfinish, rfl, rfl⟩
    exact ⟨c, _, hread, hfinish⟩
  · rintro ⟨c, c', hread, hfinish⟩
    exact ⟨c', a, c, hread, (), c', hfinish, rfl, rfl⟩

/-! ### Lists -/

/-- One member reads wherever another one does, and to the same end. -/
def Member.Follows {τ : Type} (m : Member σ) (m' : Member τ) : Prop :=
  ∀ s c s' c', Reads (m.read s) c s' c' → ∀ t, ∃ t', Reads (m'.read t) c t' c'

theorem exists_of_reads_elements {i : Nat} {m : Member σ} {rest : List (Member σ)}
    (hcomplete : shape.complete = true) (h : Reads (shape.elements i (m :: rest) s) c s' c') :
    ∃ c₁ s₁ c₂, Reads (hasElement (i == 0)) c true c₁ ∧ Reads (m.read s) c₁ s₁ c₂ ∧
      Reads (shape.elements (i + 1) rest s₁) c₂ s' c' := by
  simp only [Shape.elements, reads_bind] at h
  obtain ⟨more, c₁, hmore, h⟩ := h
  cases more with
  | false => simp [hcomplete] at h
  | true =>
    simp only [if_true, reads_bind] at h
    obtain ⟨s₁, c₂, hread, h⟩ := h
    exact ⟨c₁, s₁, c₂, hmore, hread, h⟩

/-- Where a list has more elements than another shape has members, that shape ends before one. -/
theorem hasElement_of_follows {τ : Type} {shape' : Shape τ} {t t' : τ} {c₁ : Cursor}
    (hcomplete : shape.complete = true) (hcomplete' : shape'.complete = true)
    {members : List (Member σ)} {members' : List (Member τ)}
    (hfollows : List.Forall₂ Member.Follows members members') {m : Member σ}
    {rest : List (Member σ)} {i : Nat} (hi : 0 < i + members.length)
    (h : Reads (shape.elements i (members ++ m :: rest) s) c s' c')
    (h' : Reads (shape'.elements i members' t) c t' c₁) :
    ∃ c₂, Reads (hasElement false) c₁ true c₂ := by
  induction hfollows generalizing i s t c with
  | nil =>
    obtain ⟨c₂, _, _, hmore, -⟩ := exists_of_reads_elements hcomplete h
    obtain ⟨-, rfl⟩ := reads_pure.1 h'
    have hlater : (i == 0) = false := by
      have : i ≠ 0 := by simpa [Nat.pos_iff_ne_zero] using hi
      simpa using this
    exact ⟨c₂, hlater ▸ hmore⟩
  | cons hfollows _ ih =>
    obtain ⟨c₂, s₁, c₃, hmore, hread, h⟩ := exists_of_reads_elements hcomplete h
    obtain ⟨c₂', t₁, c₃', hmore', hread', h'⟩ := exists_of_reads_elements hcomplete' h'
    obtain ⟨-, rfl⟩ := hmore.unique hmore'
    obtain ⟨t₂, hread''⟩ := hfollows _ _ _ _ hread t
    obtain ⟨rfl, rfl⟩ := hread'.unique hread''
    exact ih (by omega) h h'

/-- Another element does not begin with the end of the list. -/
theorem head_of_reads_hasElement (h : Reads (hasElement first) c true c') :
    (behind isBlank c).rest.head? ≠ some (ascii ']') := by
  simp only [hasElement, reads_bind, reads_afterBlanks] at h
  obtain ⟨_, _, ⟨rfl, rfl⟩, h⟩ := h
  split at h
  · simp at h
  · rename_i b hb
    rw [hb]
    split at h
    · simp at h
    · rename_i hbracket
      exact fun heq => hbracket (Option.some.inj heq)

theorem head_of_reads_endList {u : Unit} (h : Reads endList c u c') :
    (behind isBlank c).rest.head? = some (ascii ']') := by
  simp only [endList, reads_bind, reads_afterBlanks] at h
  obtain ⟨_, _, ⟨rfl, rfl⟩, h⟩ := h
  split at h
  · simp at h
  · rename_i b hb
    split at h
    · rename_i hbracket
      exact hbracket ▸ hb
    · split at h
      · simp only [reads_bind, reads_skip, reads_afterBlanks] at h
        obtain ⟨_, _, rfl, _, _, ⟨rfl, rfl⟩, h⟩ := h
        split at h <;> simp at h
      · simp at h

end Friendship.Json.Reader
