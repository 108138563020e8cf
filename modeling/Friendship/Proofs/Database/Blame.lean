import Friendship.Proofs.Database.Agreement
import Friendship.Service.Relations

/-!
# Which account is told missing

A row is put only between live accounts, and of those that are not live one is told. The store in
memory tells the first account of the pair that is deleted or unknown. A server looks for deleted
accounts first, and for unknown ones by the foreign keys of the rows that it is sent. Both find the
same account in all cases but one, in which the first account is unknown and the second one
deleted: `perform_tells`.
-/
namespace Friendship

namespace Database

section Missing

variable {s : Store} {p : DirectedPair} {policy : Policy} {t : Transition} {plan : List Write}

/-- The first account of a plan that is deleted, or else the first that is unknown. -/
def refusedEnd? (s : Store) (plan : List Write) : Option AccountId :=
  ((plan.flatMap Write.ends).find? fun id => (s.accounts.get? id).any Account.deleted).or
    (unknownEnd? s plan)

/-- A transition over a server comes to what is planned, unless an account is deleted or unknown. -/
theorem result_onServer (manner : Manner) (h : t.actor ≠ t.other) (policy : Policy) :
    ((mutatePair t.pair (t.plan policy)).outcome (Ideal.server manner) ⟨s, none⟩).1.result =
      (t.plan policy (s.snapshot t.pair)).bind fun plan =>
        Store.toldMissing (refusedEnd? s plan) plan := by
  have hseen := snapshotOf_of_perm_of_ne (Transition.first_ne_second_pair.2 h)
    (manner.lockedOrder_perm (Ideal.pairRows s t.pair))
  rw [outcome_mutatePair manner s hseen]
  cases hplan : t.plan policy (s.snapshot t.pair) with
  | error e => rfl
  | ok plan =>
    have hrows : ∀ w ∈ plan, w.row = t.pair ∨ w.row = t.pair.reversed :=
      fun w hw => Transition.row_of_mem_plan hplan hw
    have hrefused : refusedEnd? s plan =
        (retiredEnd? (manner.retiredOrder (Ideal.retired s t.pair)) plan).or
          (unknownEnd? s plan) := by
      rw [retiredEnd?_eq_find? hrows (manner.retiredOrder_perm _)]
      rfl
    simp only [Except.bind]
    cases hend : refusedEnd? s plan with
    | some id =>
      obtain ⟨s', hs'⟩ := outcome_carryOut_of_missing manner s (hrefused.symm.trans hend)
      rw [hs']
      rfl
    | none =>
      rw [hrefused, Option.or_eq_none_iff] at hend
      have hlive : s.missingEnd? plan = none :=
        missingEnd?_eq_none_iff_known.2 ⟨unknownEnd?_eq_none_iff.1 hend.2,
          (retiredEnd?_eq_none_iff hrows (manner.retiredOrder_perm _)).1 hend.1⟩
      rw [outcome_carryOut_of_live manner s hrows hlive]
      rfl

/-- A transition puts a row between two accounts of which the first is unknown and the second
deleted. -/
structure Divided (policy : Policy) (s : Store) (t : Transition) : Prop where
  unknown : s.accounts.get? t.pair.first = none
  deleted : (s.accounts.get? t.pair.second).any Account.deleted = true
  puts : ∃ plan, t.plan policy (s.snapshot t.pair) = .ok plan ∧ plan.any Write.isPut = true

theorem missingEnd?_of_plan {seen : Snapshot} (hplan : t.plan policy seen = .ok plan)
    (hput : plan.any Write.isPut = true) :
    s.missingEnd? plan = [t.pair.first, t.pair.second].find? fun id => !s.isLive id :=
  Transition.find?_ends_of_plan hplan hput _

theorem refusedEnd?_of_plan {seen : Snapshot} (hplan : t.plan policy seen = .ok plan)
    (hput : plan.any Write.isPut = true) :
    refusedEnd? s plan =
      ([t.pair.first, t.pair.second].find? fun id => (s.accounts.get? id).any Account.deleted).or
        ([t.pair.first, t.pair.second].find? fun id => (s.accounts.get? id).isNone) := by
  rw [refusedEnd?, unknownEnd?, Transition.find?_ends_of_plan hplan hput,
    Transition.find?_ends_of_plan hplan hput]

/-- Apart from the one case both stores find the same account. -/
theorem refusedEnd?_eq_missingEnd? (hplan : t.plan policy (s.snapshot t.pair) = .ok plan)
    (h : ¬ Divided policy s t) : refusedEnd? s plan = s.missingEnd? plan := by
  cases hput : plan.any Write.isPut with
  | false =>
    simp only [refusedEnd?, unknownEnd?, Store.missingEnd?, Write.flatMap_ends_of_no_put hput,
      List.find?_nil, Option.or_none]
  | true =>
    rw [refusedEnd?_of_plan hplan hput, missingEnd?_of_plan hplan hput]
    unfold Store.isLive
    cases hfirst : s.accounts.get? t.pair.first with
    | none =>
      have hdeleted : (s.accounts.get? t.pair.second).any Account.deleted = false :=
        Bool.eq_false_iff.2 fun hdeleted => h ⟨hfirst, hdeleted, plan, hplan, hput⟩
      simp [hfirst, hdeleted]
    | some first =>
      cases hsecond : s.accounts.get? t.pair.second with
      | none => cases hd : first.deleted <;> simp [hfirst, hsecond, hd]
      | some second =>
        cases hd : first.deleted <;> cases hd' : second.deleted <;>
          simp [hfirst, hsecond, hd, hd']

/-- In the one case the store in memory finds the first account and a server the second. -/
theorem Divided.ends (h : Divided policy s t) :
    ∃ plan, t.plan policy (s.snapshot t.pair) = .ok plan ∧
      s.missingEnd? plan = some t.pair.first ∧ refusedEnd? s plan = some t.pair.second := by
  obtain ⟨plan, hplan, hput⟩ := h.puts
  refine ⟨plan, hplan, ?_, ?_⟩
  · rw [missingEnd?_of_plan hplan hput]
    simp [Store.isLive, h.unknown]
  · rw [refusedEnd?_of_plan hplan hput]
    simp [h.unknown, h.deleted]

/-- Stores that hold the same accounts find the same one missing. -/
theorem Mirrors.refusedEnd? {d : Store} (h : Mirrors d s) (plan : List Write) :
    refusedEnd? d plan = refusedEnd? s plan := by
  have hdeleted : ∀ id, (d.accounts.get? id).any Account.deleted =
      (s.accounts.get? id).any Account.deleted := by
    intro id
    have hid := h.accounts id
    cases hd : d.accounts.get? id <;> cases hs : s.accounts.get? id <;> simp_all
  have hunknown : ∀ id, (d.accounts.get? id).isNone = (s.accounts.get? id).isNone := by
    intro id
    have hid := congrArg Option.isNone (h.accounts id)
    rwa [Option.isNone_map, Option.isNone_map] at hid
  simp only [Database.refusedEnd?, unknownEnd?, hdeleted, hunknown]

end Missing

end Database

namespace Service

open Database (Divided Ideal Manner Mirrors)

/-- A transition between two accounts is answered alike by a store in memory and by a server that
holds the same accounts and rows, whichever accounts are deleted or unknown and whatever the error,
but for one case: where it puts a row, its pair's first account is unknown and the second one
deleted, the store in memory tells that the first is missing and the server that the second is. -/
theorem perform_tells (manner : Manner) (policy : Policy) {t : Transition} (now : Instant)
    (before : List Database.Exchange) {d s : Store} (hs : s.poisoned = false) (h : Mirrors d s)
    (ht : t.actor ≠ t.other) :
    let inMemory := (perform (.memory now) policy s t).1.value
    let onServer :=
      (perform (.database (Ideal.server manner)) policy ⟨⟨d, none⟩, before⟩ t).1.value
    (¬ Divided policy s t → onServer = inMemory) ∧
      (Divided policy s t → inMemory = .error (.userNotFound t.pair.first) ∧
        onServer = .error (.userNotFound t.pair.second)) := by
  have hmemory : (perform (.memory now) policy s t).1.value =
      (s.mutatePair now t.pair (t.plan policy)).1.result.map fun _ => () := rfl
  have hserver : (perform (.database (Ideal.server manner)) policy ⟨⟨d, none⟩, before⟩ t).1.value =
      ((Database.mutatePair t.pair (t.plan policy)).outcome (Ideal.server manner)
        ⟨d, none⟩).1.result.map fun _ => () := rfl
  simp only [hmemory, hserver, Store.result_mutatePair hs, Database.result_onServer manner ht,
    h.snapshot, h.refusedEnd?]
  constructor
  · intro hundivided
    cases hplan : t.plan policy (s.snapshot t.pair) with
    | error e => rfl
    | ok plan => simp only [Except.bind, Database.refusedEnd?_eq_missingEnd? hplan hundivided]
  · intro hdivided
    obtain ⟨plan, hplan, hmissing, hrefused⟩ := hdivided.ends
    simp only [hplan, Except.bind, hmissing, hrefused]
    exact ⟨rfl, rfl⟩

end Service

namespace Sample

/-- Alice blocks Bob. -/
def block : Transition := ⟨.blockFriend, alice, bob⟩

/-- The account of one of two is deleted, and of the other nothing is known. -/
def leaving (id : AccountId) : Store where
  accounts := Table.empty.insert id ⟨"gone", 3, true⟩

end Sample

namespace Service

open Database (Divided Ideal Manner Mirrors)

/-- If Alice is deleted and Bob unknown, both stores tell that Alice is missing. -/
theorem perform_tells_alice :
    (Sample.leaving Sample.alice).poisoned = false ∧
    Mirrors (Sample.leaving Sample.alice) (Sample.leaving Sample.alice) ∧
    Sample.block.actor ≠ Sample.block.other ∧
    ¬ Divided {} (Sample.leaving Sample.alice) Sample.block ∧
    (perform (.database (Ideal.server Sample.manner)) {}
        ⟨⟨Sample.leaving Sample.alice, none⟩, []⟩ Sample.block).1.value =
      (perform (.memory (.ofSecond 3)) {} (Sample.leaving Sample.alice) Sample.block).1.value := by
  have hundivided : ¬ Divided {} (Sample.leaving Sample.alice) Sample.block := fun h => by
    have hthere : (Sample.leaving Sample.alice).accounts.get? Sample.alice ≠ none := by decide
    exact hthere h.unknown
  refine ⟨rfl, Mirrors.refl _, by decide, hundivided, ?_⟩
  exact (perform_tells Sample.manner {} (.ofSecond 3) [] rfl (Mirrors.refl _) (by decide)).1
    hundivided

/-- It is not always the same account: if Bob is deleted and Alice unknown, the store in memory
tells that Alice is missing, and a server that Bob is. -/
theorem not_always_same_missing :
    ¬ ∀ (manner : Manner) (policy : Policy) (t : Transition) (now : Instant) (d s : Store),
      s.poisoned = false → Mirrors d s → t.actor ≠ t.other → ∀ m m' : Missing,
      (perform (.memory now) policy s t).1.value = .error (.notFound m) →
      (perform (.database (Ideal.server manner)) policy ⟨⟨d, none⟩, []⟩ t).1.value =
        .error (.notFound m') → m = m' := by
  intro h
  have hmissing := h Sample.manner {} Sample.block (.ofSecond 3) (Sample.leaving Sample.bob)
    (Sample.leaving Sample.bob) rfl (Mirrors.refl _) (by decide)
    (.user Sample.alice) (.user Sample.bob) (by rfl) (by rfl)
  have hne : Missing.user Sample.alice ≠ Missing.user Sample.bob := by decide
  exact hne hmissing

end Service
end Friendship
