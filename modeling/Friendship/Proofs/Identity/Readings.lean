import Friendship.Proofs.Identity.Times
import Friendship.Proofs.Json.Members

/-!
# Two readings of claims

The claims of a token are read twice: in full, and once more for the time at which they expire. The
two can part only at the time when a token becomes valid, which the first one passes, be it what it
may, and the second one reads. Those that both come to the end have not parted, and agree on the
time: `expires_of_document`. An object that tells at most once when the token becomes valid, and in
a whole number, is read twice: `exists_document_of_wholeStart`.
-/
namespace Friendship.SignedToken

open Json Json.Reader

variable {c c' c₁ : Cursor} {g g' : Claims.Given} {v v' : Validity} {name : String}

/-- What two readings of the same members have found. -/
structure Agree (g : Claims.Given) (v : Validity) : Prop where
  subject : v.names.contains "sub" = g.subject.isSome
  expires : v.names.contains "exp" = g.expires.isSome
  issuer : v.names.contains "iss" = g.issuer.isSome
  audience : v.names.contains "aud" = g.audience.isSome
  time : v.expires = g.expires.bind fun n => if 0 ≤ n then some n.toNat else none

theorem agree_empty : Agree {} {} := ⟨rfl, rfl, rfl, rfl, rfl⟩

theorem Agree.pass_nbf (h : Agree g v) : Agree g { v with names := "nbf" :: v.names } := by
  obtain ⟨hsubject, hexpires, hissuer, haudience, htime⟩ := h
  constructor <;> simp_all

/-- A text that both readings ask for. -/
theorem reads_entry_of_text {get : Claims.Given → Option String}
    {set : Claims.Given → String → Claims.Given}
    (hclaims : (Claims.shape.members.find? fun m => m.name == name) =
      some (.of name get set anyString))
    (hvalidity : (Validity.shape.members.find? fun m => m.name == name) =
      some (passed name skipValue))
    (hgiven : v.names.contains name = (get g).isSome)
    (h : Reads (Claims.shape.entry g name) c g' c') :
    (∃ s, set g s = g') ∧
      Reads (Validity.shape.entry v name) c { v with names := name :: v.names } c' := by
  rw [reads_entry_of_some hclaims] at h
  obtain ⟨hnew, c₁, hcolon, hread⟩ := h
  simp only [Member.of, reads_bind, reads_pure] at hread
  obtain ⟨s, _, htext, rfl, rfl⟩ := hread
  refine ⟨⟨s, rfl⟩, (reads_entry_of_some hvalidity).2 ⟨hgiven.trans hnew, c₁, hcolon, ?_⟩⟩
  simp only [passed, reads_bind, reads_pure]
  exact ⟨(), _, reads_skipValue_of_anyString htext, trivial, rfl⟩

theorem find?_validity_eq_none (hexp : name ≠ "exp") (hnbf : name ≠ "nbf") (hsub : name ≠ "sub")
    (hiss : name ≠ "iss") (haud : name ≠ "aud") :
    (Validity.shape.members.find? fun m => m.name == name) = none := by
  simp [Validity.shape, passed, hsub.symm, hexp.symm, hnbf.symm, hiss.symm, haud.symm]

theorem skippable_claims : Claims.shape.Skippable := by
  have htext {get : Claims.Given → Option String} {set : Claims.Given → String → Claims.Given}
      {name : String} {s s' : Claims.Given} {c c' : Cursor}
      (h : Reads ((Member.of name get set anyString).read s) c s' c') :
      Reads skipValue c () c' := by
    simp only [Member.of, reads_bind, reads_pure] at h
    obtain ⟨_, _, htext, -, rfl⟩ := h
    exact reads_skipValue_of_anyString htext
  have hwhole {get : Claims.Given → Option Int} {set : Claims.Given → Int → Claims.Given}
      {name : String} {s s' : Claims.Given} {c c' : Cursor}
      (h : Reads ((Member.of name get set int64).read s) c s' c') : Reads skipValue c () c' := by
    simp only [Member.of, reads_bind, reads_pure] at h
    obtain ⟨_, _, hwhole, -, rfl⟩ := h
    exact reads_skipValue_of_int64 hwhole
  intro m hm s c s' c' h
  simp only [Claims.shape, List.mem_cons, List.not_mem_nil, or_false] at hm
  rcases hm with rfl | rfl | rfl | rfl | rfl | rfl
  · exact htext h
  · exact hwhole h
  · exact hwhole h
  · exact htext h
  · exact htext h
  · exact htext h

/-- The time is read where the other reading reads a whole number. -/
theorem Agree.entry_exp (hagree : Agree g v) (h : Reads (Claims.shape.entry g "exp") c g' c') :
    ∃ n, { g with expires := some n } = g' ∧ Reads (Validity.shape.entry v "exp") c
      ⟨"exp" :: v.names, if 0 ≤ n then some n.toNat else none⟩ c' := by
  rw [reads_entry_of_some (m := .of "exp" Claims.Given.expires
    (fun g n => { g with expires := some n }) int64) rfl] at h
  obtain ⟨hnew, c₁, hcolon, hread⟩ := h
  simp only [Member.of, reads_bind, reads_pure] at hread
  obtain ⟨n, _, hint, rfl, rfl⟩ := hread
  refine ⟨n, rfl, (reads_entry_of_some (m := {
    name := "exp"
    given := fun v => v.names.contains "exp"
    read := fun v => do pure ⟨"exp" :: v.names, ← seconds⟩
    required := false }) rfl).2 ⟨hagree.expires.trans hnew, c₁, hcolon, ?_⟩⟩
  simp only [reads_bind, reads_pure]
  exact ⟨_, _, reads_seconds_of_int64 hint, rfl, rfl⟩

/-- Every member but one is read alike. -/
theorem Agree.entry (hagree : Agree g v) (hname : name ≠ "nbf")
    (h : Reads (Claims.shape.entry g name) c g' c') :
    ∃ v', Reads (Validity.shape.entry v name) c v' c' ∧ Agree g' v' ∧
      v'.names.contains "nbf" = v.names.contains "nbf" := by
  obtain ⟨hsubject, hexpires, hissuer, haudience, htime⟩ := id hagree
  by_cases hsub : name = "sub"
  · subst hsub
    obtain ⟨⟨s, rfl⟩, hread⟩ := reads_entry_of_text rfl rfl hsubject h
    exact ⟨_, hread, by constructor <;> simp_all, by simp⟩
  by_cases hiss : name = "iss"
  · subst hiss
    obtain ⟨⟨s, rfl⟩, hread⟩ := reads_entry_of_text rfl rfl hissuer h
    exact ⟨_, hread, by constructor <;> simp_all, by simp⟩
  by_cases haud : name = "aud"
  · subst haud
    obtain ⟨⟨s, rfl⟩, hread⟩ := reads_entry_of_text rfl rfl haudience h
    exact ⟨_, hread, by constructor <;> simp_all, by simp⟩
  by_cases hexp : name = "exp"
  · subst hexp
    obtain ⟨n, rfl, hread⟩ := hagree.entry_exp h
    exact ⟨_, hread, by constructor <;> simp_all, by simp⟩
  have hnone := find?_validity_eq_none hexp hname hsub hiss haud
  obtain ⟨c₁, hcolon, hskip⟩ := skippable_claims.entry h
  refine ⟨v, (reads_entry_of_none hnone).2 ⟨c₁, hcolon, hskip, rfl⟩, ?_, rfl⟩
  -- What the first reading finds here is none of what the two have in common.
  cases hfind : Claims.shape.members.find? fun m => m.name == name with
  | none =>
    obtain ⟨-, -, -, rfl⟩ := (reads_entry_of_none hfind).1 h
    exact hagree
  | some m =>
    obtain ⟨-, _, -, hread⟩ := (reads_entry_of_some hfind).1 h
    have hm := List.mem_of_find?_eq_some hfind
    have hsame : m.name = name := by simpa using List.find?_some hfind
    simp only [Claims.shape, List.mem_cons, List.not_mem_nil, or_false] at hm
    rcases hm with rfl | rfl | rfl | rfl | rfl | rfl
    · exact absurd hsame.symm hsub
    · exact absurd hsame.symm hexp
    · simp only [Member.of, reads_bind, reads_pure] at hread
      obtain ⟨_, _, -, rfl, -⟩ := hread
      exact ⟨hsubject, hexpires, hissuer, haudience, htime⟩
    · exact absurd hsame.symm hiss
    · exact absurd hsame.symm haud
    · simp only [Member.of, reads_bind, reads_pure] at hread
      obtain ⟨_, _, -, rfl, -⟩ := hread
      exact ⟨hsubject, hexpires, hissuer, haudience, htime⟩

/-! ### A reading that went astray -/

/-- What is left is the end of the object and of the text. -/
def Closes (c : Cursor) : Prop := ∃ c₁ c₂, Reads endObject c () c₁ ∧ Reads finish c₁ () c₂

theorem Closes.after (h : Closes c) : Place.outside.after c.rest = some .outside := by
  obtain ⟨c₁, c₂, hend, hfinish⟩ := h
  obtain ⟨hspans, hnil⟩ := rest_of_reads_finish hfinish
  exact ((spans_of_reads_endObject hend).trans hspans).after (by rw [hnil]; rfl)

theorem reads_passed {read : Reader Unit} :
    Reads ((passed name read).read v) c v' c' ↔
      Reads read c () c' ∧ { v with names := name :: v.names } = v' := by
  simp only [passed, reads_bind, reads_pure]
  constructor
  · rintro ⟨_, _, hread, rfl, rfl⟩
    exact ⟨hread, rfl⟩
  · rintro ⟨hread, rfl⟩
    exact ⟨(), _, hread, rfl, rfl⟩

/-- But for times, members are skipped. -/
theorem spans_of_reads_entry (hexp : name ≠ "exp") (hnbf : v.names.contains "nbf" = true)
    (h : Reads (Validity.shape.entry v name) c v' c') :
    Spans .outside c c' .outside ∧ v'.names.contains "nbf" = true := by
  have hpassed (hname : (Validity.shape.members.find? fun m => m.name == name) =
      some (passed name skipValue)) :
      Spans .outside c c' .outside ∧ v'.names.contains "nbf" = true := by
    obtain ⟨-, c₁, hcolon, hread⟩ := (reads_entry_of_some hname).1 h
    obtain ⟨hskip, rfl⟩ := reads_passed.1 hread
    exact ⟨(spans_of_reads_colon hcolon).trans (spans_of_reads_skipValue hskip), by simp_all⟩
  by_cases hsub : name = "sub"
  · exact hpassed (hsub ▸ rfl)
  by_cases hiss : name = "iss"
  · exact hpassed (hiss ▸ rfl)
  by_cases haud : name = "aud"
  · exact hpassed (haud ▸ rfl)
  by_cases hname : name = "nbf"
  · subst hname
    have hgiven := ((reads_entry_of_some (m := passed "nbf" (do let _ ← seconds)) rfl).1 h).1
    exact absurd (hnbf.symm.trans hgiven) (by decide)
  obtain ⟨c₁, hcolon, hskip, rfl⟩ :=
    (reads_entry_of_none (find?_validity_eq_none hexp hname hsub hiss haud)).1 h
  exact ⟨(spans_of_reads_colon hcolon).trans (spans_of_reads_skipValue hskip), hnbf⟩

/-- A reading that began in a string, as the other reading sees it, never comes to the end: at each
name the two are in opposite places. -/
theorem not_closes_of_inside {fuel : Nat} (hnbf : v.names.contains "nbf" = true)
    (hinside : Place.inside.after c.rest = some .outside)
    (h : Reads (Validity.shape.entries fuel false v) c v' c') : ¬ Closes c' := by
  induction fuel generalizing c v with
  | zero => simp [Shape.entries] at h
  | succ fuel ih =>
    rcases reads_entries_succ.1 h with
      ⟨hdone, -, rfl⟩ | ⟨c₁, name, c₂, v₁, c₃, hmore, hname, hentry, h⟩
    · intro hcloses
      have houtside := (spans_of_reads_hasName hdone).1.after hcloses.after
      obtain ⟨-, h⟩ | ⟨h, -⟩ := Place.opposite houtside hinside <;> cases h
    · obtain ⟨hspans, hquote⟩ := spans_of_reads_hasName hmore
      have hinside₁ := hspans.inside_after hinside
      obtain ⟨rest, hrest⟩ := List.head?_eq_some_iff.1 (hquote rfl)
      -- Behind the quote this reading is in a name, and the other one behind a string.
      have houtside : Place.outside.after c₁.advance.rest = some .outside := by
        rw [hrest] at hinside₁
        rw [Cursor.rest_advance, hrest]
        exact hinside₁
      have hexp : name ≠ "exp" := by
        rintro rfl
        exact not_mem_of_reads_stringText hname houtside (by decide)
      have hinside₂ := (spans_of_reads_stringText hname).outside_after houtside
      obtain ⟨hspans₃, hnbf₁⟩ := spans_of_reads_entry hexp hnbf hentry
      exact ih hnbf₁ (hspans₃.inside_after hinside₂) h

/-! ### Both readings -/

/-- The time before which a token is not valid is left out by one of the readings. -/
theorem reads_entry_nbf (h : Reads (Claims.shape.entry g "nbf") c g' c')
    (h' : Reads (Validity.shape.entry v "nbf") c v' c₁) :
    g = g' ∧ { v with names := "nbf" :: v.names } = v' ∧ Astray c₁ c' := by
  obtain ⟨c₂, hcolon, hskip, rfl⟩ := (reads_entry_of_none rfl).1 h
  obtain ⟨-, c₃, hcolon', hread⟩ :=
    (reads_entry_of_some (m := passed "nbf" (do let _ ← seconds)) rfl).1 h'
  rw [reads_passed] at hread
  obtain ⟨hread, rfl⟩ := hread
  obtain ⟨-, rfl⟩ := hcolon.unique hcolon'
  obtain ⟨o, _, hseconds, hpure⟩ := reads_bind.1 hread
  obtain ⟨-, rfl⟩ := reads_pure.1 hpure
  exact ⟨rfl, rfl, astray_of_reads_seconds hskip hseconds⟩

/-- A reading that went astray never comes to the end where the other one does. -/
theorem eq_of_astray {fuel fuel' : Nat} (hnbf : v.names.contains "nbf" = true)
    (hastray : Astray c₁ c) (h : Reads (Claims.shape.entries fuel false g) c g' c')
    (hcloses : Closes c') {c₂ : Cursor} (h' : Reads (Validity.shape.entries fuel' false v) c₁ v' c₂)
    (hcloses₂ : Closes c₂) : c₁ = c := by
  obtain heq | ⟨b, hb, hcomma, hbrace⟩ | hends := hastray
  · exact heq
  · exfalso
    cases fuel' with
    | zero => simp [Shape.entries] at h'
    | succ fuel' =>
      have hmore : ∃ more c₃, Reads (hasName false) c₁ more c₃ := by
        rcases reads_entries_succ.1 h' with ⟨hdone, -⟩ | ⟨c₃, _, _, _, _, hmore, -⟩
        · exact ⟨_, _, hdone⟩
        · exact ⟨_, _, hmore⟩
      obtain ⟨more, c₃, hmore⟩ := hmore
      obtain hhead | hhead := start_of_reads_hasName hmore
      · exact hcomma (Option.some.inj (hb.symm.trans hhead))
      · exact hbrace (Option.some.inj (hb.symm.trans hhead))
  · have houtside := (skippable_claims.spans_entries h).after hcloses.after
    exact absurd hcloses₂ (not_closes_of_inside hnbf (hends.spans.after houtside) h')

/-- Two readings of an object that both come to its end agree on what they have found. -/
theorem Agree.entries {fuel : Nat} {first : Bool} (hagree : Agree g v)
    (h : Reads (Claims.shape.entries fuel first g) c g' c') (hcloses : Closes c')
    (h' : Reads (Validity.shape.entries fuel first v) c v' c₁) (hcloses₁ : Closes c₁) :
    Agree g' v' := by
  induction fuel generalizing first g v c with
  | zero => simp [Shape.entries] at h
  | succ fuel ih =>
    rcases reads_entries_succ.1 h with
      ⟨hdone, -, rfl⟩ | ⟨c₂, name, c₃, g₁, c₄, hmore, hname, hentry, h⟩ <;>
      rcases reads_entries_succ.1 h' with
        ⟨hdone', -, rfl⟩ | ⟨c₂', name', c₃', v₁, c₄', hmore', hname', hentry', h'⟩
    · exact hagree
    · exact absurd (hdone.unique hmore').1 (by decide)
    · exact absurd (hmore.unique hdone').1 (by decide)
    · obtain ⟨-, rfl⟩ := hmore.unique hmore'
      obtain ⟨rfl, rfl⟩ := hname.unique hname'
      by_cases hnbf : name = "nbf"
      · subst hnbf
        obtain ⟨rfl, rfl, hastray⟩ := reads_entry_nbf hentry hentry'
        obtain rfl := eq_of_astray (by simp) hastray h hcloses h' hcloses₁
        exact ih hagree.pass_nbf h h'
      · obtain ⟨v₂, hentry'', hagree₁, -⟩ := hagree.entry hnbf hentry
        obtain ⟨rfl, rfl⟩ := hentry'.unique hentry''
        exact ih hagree₁ h h'

/-! ### Lists -/

/-- The second reading of a list takes one member after another for what it asks for itself, and is
over before the list is. -/
theorem follows_claims :
    List.Forall₂ Member.Follows (Claims.shape.members.take 5) Validity.shape.members := by
  have hskip {m : Member Claims.Given} (hm : m ∈ Claims.shape.members) (name : String) :
      m.Follows (passed name skipValue) := fun s c s' c' h v =>
    ⟨_, reads_passed.2 ⟨skippable_claims m hm s c s' c' h, rfl⟩⟩
  refine .cons ?_ (.cons ?_ (.cons (hskip ?_ _) (.cons (hskip ?_ _) (.cons (hskip ?_ _) .nil))))
  · intro g c g' c' h v
    simp only [Member.of, reads_bind, reads_pure] at h
    obtain ⟨s, _, htext, rfl, rfl⟩ := h
    refine ⟨⟨"exp" :: v.names, none⟩, ?_⟩
    simp only [reads_bind, reads_pure]
    exact ⟨none, _, reads_seconds_of_anyString htext, rfl, rfl⟩
  · intro g c g' c' h v
    simp only [Member.of, reads_bind, reads_pure] at h
    obtain ⟨n, _, hint, rfl, rfl⟩ := h
    refine ⟨_, reads_passed.2 ⟨?_, rfl⟩⟩
    exact reads_bind.2 ⟨_, _, reads_seconds_of_int64 hint, reads_pure.2 ⟨rfl, rfl⟩⟩
  all_goals simp [Claims.shape]

/-- Claims in a list are never read twice. -/
theorem not_reads_list {c₁ c₂ : Cursor}
    (h : Reads (Claims.shape.elements 0 Claims.shape.members g) c g' c')
    (h' : Reads (Validity.shape.elements 0 Validity.shape.members v) c v' c₁) :
    ¬ Reads endList c₁ () c₂ := by
  have hmembers : Claims.shape.members =
    Claims.shape.members.take 5 ++ Claims.shape.members.drop 5 := rfl
  rw [hmembers] at h
  obtain ⟨c₃, hmore⟩ := hasElement_of_follows rfl rfl follows_claims (by decide) h h'
  exact fun hend => head_of_reads_hasElement hmore (head_of_reads_endList hend)

/-! ### Whole payloads -/

variable {payload : List UInt8} {claims : Claims}

/-- Claims are read by their shape, and all are given. -/
theorem reads_claims {c c' : Cursor} (h : Reads Claims.decode c claims c') :
    ∃ g, Reads (Claims.shape.decode {}) c g c' ∧ Claims.ofGiven? g = some claims := by
  simp only [Claims.decode, reads_bind] at h
  obtain ⟨g, c₁, hread, h⟩ := h
  split at h
  · rename_i hgiven
    obtain ⟨rfl, rfl⟩ := reads_pure.1 h
    exact ⟨g, hread, hgiven⟩
  · simp at h

theorem expires_of_given (h : Claims.ofGiven? g = some claims) :
    g.expires = some claims.expires := by
  simp only [Claims.ofGiven?, Option.bind_eq_bind, Option.bind_eq_some_iff, Option.pure_def,
    Option.some.injEq] at h
  obtain ⟨_, -, expires, hexpires, _, -, _, -, _, -, _, -, rfl⟩ := h
  exact hexpires

/-- If a payload is read twice, the second reading finds the time of the first one, unless that is
negative. -/
theorem expires_of_document (h : document Claims.decode payload = .ok claims)
    (h' : document (Validity.shape.decode {}) payload = .ok v) :
    v.expires = if 0 ≤ claims.expires then some claims.expires.toNat else none := by
  obtain ⟨c, c', hclaims, hfinish⟩ := document_eq_ok_iff.1 h
  obtain ⟨c₁, c₁', hvalidity, hfinish₁⟩ := document_eq_ok_iff.1 h'
  obtain ⟨g, hclaims, hgiven⟩ := reads_claims hclaims
  rcases reads_decode.1 hclaims with ⟨c₂, hlist, hread, hend⟩ | ⟨c₂, hobject, hread, hend⟩ <;>
    rcases reads_decode.1 hvalidity with ⟨c₃, hlist', hread', hend'⟩ | ⟨c₃, hobject', hread', hend'⟩
  · exact absurd hend' (not_reads_list hread hread')
  · exact absurd (hlist.symm.trans hobject') (by decide)
  · exact absurd (hobject.symm.trans hlist') (by decide)
  · have hagree := agree_empty.entries hread ⟨c, c', hend, hfinish⟩ hread'
      ⟨c₁, c₁', hend', hfinish₁⟩
    rw [hagree.time, expires_of_given hgiven, Option.bind_some]

/-! ### Payloads that are read twice -/

/-- Any object that tells at most once when a token becomes valid, and does so in a whole number. -/
def wholeStart : Shape (Option Int) where
  name := "object"
  members := [.of "nbf" id (fun _ n => some n) int64 false]

theorem skippable_wholeStart : wholeStart.Skippable := by
  intro m hm s c s' c' h
  simp only [wholeStart, List.mem_singleton] at hm
  subst hm
  simp only [Member.of, reads_bind, reads_pure] at h
  obtain ⟨_, _, hwhole, -, rfl⟩ := h
  exact reads_skipValue_of_int64 hwhole

section WholeStart

variable {o o' : Option Int}

theorem reads_entry_wholeStart_of_ne (hname : name ≠ "nbf")
    (h : Reads (wholeStart.entry o name) c o' c') : o = o' := by
  have hnone : (wholeStart.members.find? fun m => m.name == name) = none := by
    simp [wholeStart, Member.of, hname.symm]
  obtain ⟨-, -, -, rfl⟩ := (reads_entry_of_none hnone).1 h
  rfl

/-- Where one reading finds a whole number, the other one passes a time. -/
theorem reads_entry_nbf_of_wholeStart (hstart : v.names.contains "nbf" = o.isSome)
    (h : Reads (wholeStart.entry o "nbf") c o' c') :
    o'.isSome = true ∧
      Reads (Validity.shape.entry v "nbf") c { v with names := "nbf" :: v.names } c' := by
  rw [reads_entry_of_some (m := .of "nbf" id (fun _ n => some n) int64 false) rfl] at h
  obtain ⟨hnew, c₁, hcolon, hread⟩ := h
  simp only [Member.of, reads_bind, reads_pure] at hread
  obtain ⟨n, _, hint, rfl, rfl⟩ := hread
  refine ⟨rfl, (reads_entry_of_some (m := passed "nbf" (do let _ ← seconds)) rfl).2
    ⟨hstart.trans hnew, c₁, hcolon, reads_passed.2 ⟨?_, rfl⟩⟩⟩
  exact reads_bind.2 ⟨_, _, reads_seconds_of_int64 hint, reads_pure.2 ⟨rfl, rfl⟩⟩

/-- Where a whole number tells when a token becomes valid, or nothing does, the second reading
follows the first one. -/
theorem Agree.entries_of_wholeStart {fuel : Nat} {first : Bool} (hagree : Agree g v)
    (hstart : v.names.contains "nbf" = o.isSome)
    (h : Reads (Claims.shape.entries fuel first g) c g' c')
    (h' : Reads (wholeStart.entries fuel first o) c o' c₁) :
    ∃ v', Reads (Validity.shape.entries fuel first v) c v' c' := by
  induction fuel generalizing first g v c o with
  | zero => simp [Shape.entries] at h
  | succ fuel ih =>
    rcases reads_entries_succ.1 h with
      ⟨hdone, -, rfl⟩ | ⟨c₂, name, c₃, g₁, c₄, hmore, hname, hentry, h⟩ <;>
      rcases reads_entries_succ.1 h' with
        ⟨hdone', -, -⟩ | ⟨c₂', name', c₃', o₁, c₄', hmore', hname', hentry', h'⟩
    · exact ⟨v, reads_entries_succ.2 (Or.inl ⟨hdone, by simp [Validity.shape, passed], rfl⟩)⟩
    · exact absurd (hdone.unique hmore').1 (by decide)
    · exact absurd (hmore.unique hdone').1 (by decide)
    · obtain ⟨-, rfl⟩ := hmore.unique hmore'
      obtain ⟨rfl, rfl⟩ := hname.unique hname'
      obtain ⟨c₅, hcolon, hskip⟩ := skippable_claims.entry hentry
      obtain ⟨c₆, hcolon', hskip'⟩ := skippable_wholeStart.entry hentry'
      obtain ⟨-, rfl⟩ := hcolon.unique hcolon'
      obtain ⟨-, rfl⟩ := hskip.unique hskip'
      have hstep : ∃ v₁, Reads (Validity.shape.entry v name) c₃ v₁ c₄ ∧ Agree g₁ v₁ ∧
          v₁.names.contains "nbf" = o₁.isSome := by
        by_cases hnbf : name = "nbf"
        · subst hnbf
          obtain ⟨hsome, hread⟩ := reads_entry_nbf_of_wholeStart hstart hentry'
          obtain ⟨-, -, -, rfl⟩ := (reads_entry_of_none rfl).1 hentry
          exact ⟨_, hread, hagree.pass_nbf, by simp [hsome]⟩
        · obtain ⟨v₁, hread, hagree₁, hsame⟩ := hagree.entry hnbf hentry
          obtain rfl := reads_entry_wholeStart_of_ne hnbf hentry'
          exact ⟨v₁, hread, hagree₁, hsame.trans hstart⟩
      obtain ⟨v₁, hread, hagree₁, hstart₁⟩ := hstep
      obtain ⟨v', hrest⟩ := ih hagree₁ hstart₁ h h'
      exact ⟨v', reads_entries_succ.2
        (Or.inr ⟨c₂, name, c₃, v₁, _, hmore, hname, hread, hrest⟩)⟩

/-- A list of claims begins with a text, and so tells nothing of a time. -/
theorem not_reads_elements_wholeStart
    (h : Reads (Claims.shape.elements 0 Claims.shape.members g) c g' c')
    (h' : Reads (wholeStart.elements 0 wholeStart.members o) c o' c₁) : False := by
  obtain ⟨c₂, g₁, _, hmore, htext, -⟩ := exists_of_reads_elements rfl h
  obtain ⟨c₃, o₁, _, hmore', hwhole, -⟩ := exists_of_reads_elements rfl h'
  obtain ⟨-, rfl⟩ := hmore.unique hmore'
  simp only [Member.of, reads_bind, reads_pure] at htext hwhole
  obtain ⟨_, _, htext, -⟩ := htext
  obtain ⟨_, _, hwhole, -⟩ := hwhole
  have hquote := (reads_anyString.1 htext).1
  obtain ⟨b, hb, hnumber, -⟩ := number_of_reads_int64 hwhole
  obtain rfl := Option.some.inj (hquote.symm.trans hb)
  exact absurd hnumber (by decide)

end WholeStart

/-- Claims in an object that tells at most once, and in a whole number, when the token becomes valid
are read twice. -/
theorem exists_document_of_wholeStart {o : Option Int}
    (h : document Claims.decode payload = .ok claims)
    (hstart : document (wholeStart.decode none) payload = .ok o) :
    ∃ v, document (Validity.shape.decode {}) payload = .ok v := by
  obtain ⟨c, c', hclaims, hfinish⟩ := document_eq_ok_iff.1 h
  obtain ⟨c₁, c₁', hstart, -⟩ := document_eq_ok_iff.1 hstart
  obtain ⟨g, hclaims, -⟩ := reads_claims hclaims
  rcases reads_decode.1 hclaims with ⟨c₂, hlist, hread, hend⟩ | ⟨c₂, hobject, hread, hend⟩ <;>
    rcases reads_decode.1 hstart with ⟨c₃, hlist', hread', hend'⟩ | ⟨c₃, hobject', hread', hend'⟩
  · exact (not_reads_elements_wholeStart hread hread').elim
  · exact absurd (hlist.symm.trans hobject') (by decide)
  · exact absurd (hobject.symm.trans hlist') (by decide)
  · obtain ⟨v, hvalidity⟩ := agree_empty.entries_of_wholeStart rfl hread hread'
    exact ⟨v, document_eq_ok_iff.2
      ⟨c, c', reads_decode.2 (Or.inr ⟨c₂, hobject, hvalidity, hend⟩), hfinish⟩⟩

end Friendship.SignedToken
