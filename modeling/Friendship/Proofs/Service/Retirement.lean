import Friendship.Proofs.Service.Consent
import Friendship.Proofs.Service.Views

/-!
# Accounts that are gone

A row is only put between live accounts, so while an account is not live a plan leaves each row of
it as it was or deletes it: `get?_writeAll_of_not_live`. A row that goes is deleted by a removal or
a rejection (`deletes_of_carryOut`), and a removal of a row that is left is never refused
(`perform_remove`). Hence the rows of an account that does not come back can only become fewer:
`Dwindled`, which every step keeps, and `retired_dwindles` for histories.
-/
namespace Friendship

/-- The account is an end of the pair. -/
def DirectedPair.touches (p : DirectedPair) (id : AccountId) : Prop :=
  p.first = id ∨ p.second = id

namespace Store

variable {s : Store} {id : AccountId} {p q : DirectedPair} {plan : List Write}

/-- A plan that is carried out puts no row of an account that is not live. -/
theorem get?_writeAll_of_not_live (hid : s.isLive id = false) (hp : p.touches id)
    (hlive : s.missingEnd? plan = none) (now : Instant) :
    (s.writeAll now plan).rows.get? p = s.rows.get? p ∨
      (s.writeAll now plan).rows.get? p = none := by
  rw [get?_writeAll]
  cases hlast : Write.last? plan p with
  | none => exact Or.inl rfl
  | some w =>
    obtain ⟨hw, rfl⟩ := Write.mem_of_last? hlast
    cases w with
    | delete _ => exact Or.inr rfl
    | put row status =>
      have hends := missingEnd?_eq_none_iff.1 hlive _ hw id
        (Write.mem_ends_iff.2 ⟨rfl, hp.imp Eq.symm Eq.symm⟩)
      rw [hid] at hends
      cases hends

theorem get?_mutatePair_of_not_live (hs : s.poisoned = false) (hid : s.isLive id = false)
    (hp : p.touches id) (now : Instant) (planner : Planner) :
    (s.mutatePair now q planner).2.rows.get? p = s.rows.get? p ∨
      (s.mutatePair now q planner).2.rows.get? p = none := by
  rcases mutatePair_cases hs now q planner with
    ⟨e, -, heq⟩ | ⟨plan, other, -, -, heq⟩ | ⟨plan, -, hlive, heq⟩
  · exact Or.inl (by rw [heq])
  · exact Or.inl (by rw [heq])
  · rw [heq]
    exact get?_writeAll_of_not_live hid hp hlive now

end Store

namespace Service

variable {s : Store} {a b : AccountId}

/-- Whoever has a row with another account gets rid of it, live or not. -/
theorem perform_remove (hs : s.Coherent) (hrows : (s.snapshot ⟨a, b⟩).isEmpty = false)
    (now : Instant) (policy : Policy) :
    (perform (.memory now) policy s ⟨.removeFriend, a, b⟩).1.value = .ok () ∧
      (perform (.memory now) policy s ⟨.removeFriend, a, b⟩).2.Stands ⟨a, b⟩ .strangers := by
  obtain ⟨x, hx, hne, hab⟩ := hs.exists_related hrows
  have hafter : x.after policy s.isLive ⟨.removeFriend, a, b⟩ = .ok .strangers := by
    rw [Standing.after_distinct hab]
    simp [Standing.next, Standing.renews, hne, Except.bind]
  rw [perform_of_stands (t := ⟨.removeFriend, a, b⟩) hs.inUse hx, hafter]
  exact ⟨rfl, Store.stands_writeAll hx hafter now⟩

end Service

namespace History

/-- The moment brings an account, for the first time or once more. -/
def Moment.brings (id : AccountId) (m : Moment) : Bool :=
  match m.step, m.answer.value with
  | .insertAccount id' _ _, .ok _ => id' = id
  | _, _ => false

/-- The moment deletes the row of a pair: it is a removal or a rejection between its two accounts
that succeeded. -/
structure Moment.Deletes (m : Moment) (p : DirectedPair) (row : Row) : Prop where
  parting : ∃ t, m.success? p = some t ∧ (t.action = .removeFriend ∨ t.action = .rejectFriend)
  before : m.before.rows.get? p = some row
  after : m.after.rows.get? p = none

variable {policy : Policy} {now : Instant} {s s' s'' : Store} {step : Service.Step}
  {id : AccountId} {p : DirectedPair} {row : Row} {done rest : List Moment}

/-- An account that is not live stays so until it comes. -/
theorem isLive_of_not_brings (hid : s.isLive id = false)
    (haway : (Moment.of policy now s step).brings id = false) :
    (step.carryOut policy now s).2.isLive id = false := by
  cases habout : step.isAbout id with
  | false => exact (Service.Step.isLive_carryOut habout policy now s).trans hid
  | true =>
    cases step with
    | call _ => cases habout
    | insertAccount other username avatar =>
      obtain rfl : other = id := by simpa [Service.Step.isAbout] using habout
      simp only [Moment.brings, Service.Step.carryOut] at haway ⊢
      cases hnext : s.insertAccount other username avatar with
      | error e => exact hid
      | ok next => simp [hnext, Service.changed] at haway
    | deleteAccount other =>
      obtain rfl : other = id := by simpa [Service.Step.isAbout] using habout
      simp only [Service.Step.carryOut]
      cases hnext : s.deleteAccount other with
      | error e => exact hid
      | ok next => exact Store.isLive_of_deleteAccount hnext

/-- While an account is not live a step leaves each row of it as it was, or takes it away. -/
theorem get?_carryOut_of_not_live (hs : s.Coherent) (hid : s.isLive id = false)
    (hp : p.touches id) (policy : Policy) (now : Instant) (step : Service.Step) :
    (step.carryOut policy now s).2.rows.get? p = s.rows.get? p ∨
      (step.carryOut policy now s).2.rows.get? p = none := by
  cases hon : step.isOn p with
  | false => exact Or.inl (Service.Step.get?_carryOut hon policy now s)
  | true =>
    obtain ⟨t, rfl, -⟩ := Service.Step.isOn_iff.1 hon
    exact Store.get?_mutatePair_of_not_live hs.inUse hid hp now (t.plan policy)

/-- A row that a transition takes away is deleted by a removal or a rejection. -/
theorem parting_of_perform {t : Transition} (hs : s.Coherent) (ht : t.isBetween p = true)
    (hrow : s.rows.get? p = some row)
    (hgone : (Service.perform (.memory now) policy s t).2.rows.get? p = none) :
    (Service.perform (.memory now) policy s t).1.value = .ok () ∧
      (t.action = .removeFriend ∨ t.action = .rejectFriend) := by
  obtain ⟨x, hx⟩ := hs.exists_stands t.pair
  rw [Service.perform_of_stands hs.inUse hx] at hgone ⊢
  cases hy : x.after policy s.isLive t with
  | error e =>
    rw [hy] at hgone
    cases hrow.symm.trans hgone
  | ok y =>
    rw [hy] at hgone
    have hbefore : s.status? p = some row.status := congrArg (Option.map Row.status) hrow
    have hafter : (s.writeAll now (x.writes t y)).status? p = none :=
      congrArg (Option.map Row.status) hgone
    have hy' := Store.stands_writeAll hx hy now
    refine ⟨rfl, (Standing.moves_of_next (Standing.next_of_after hy)).deletes ?_⟩
    rcases Transition.eq_pair_or_eq_reversed ht with rfl | rfl
    · rw [hx.forward] at hbefore
      exact Or.inl ⟨Option.isSome_of_eq_some hbefore, hy'.forward.symm.trans hafter⟩
    · rw [hx.backward] at hbefore
      exact Or.inr ⟨Option.isSome_of_eq_some hbefore, hy'.backward.symm.trans hafter⟩

theorem deletes_of_carryOut (hs : s.Coherent) (hrow : s.rows.get? p = some row)
    (hgone : (step.carryOut policy now s).2.rows.get? p = none) :
    (Moment.of policy now s step).Deletes p row := by
  cases hon : step.isOn p with
  | false =>
    rw [Service.Step.get?_carryOut hon, hrow] at hgone
    cases hgone
  | true =>
    obtain ⟨t, rfl, ht⟩ := Service.Step.isOn_iff.1 hon
    obtain ⟨hvalue, haction⟩ := parting_of_perform hs ht hrow hgone
    refine ⟨⟨t, ?_, haction⟩, hrow, hgone⟩
    rw [Moment.success?_of ht, hvalue]
    rfl

/-- Of the rows of an account that is not live some are left as they were, and the others were
deleted on the way. -/
structure Dwindled (id : AccountId) (s : Store) (done : List Moment) (s' : Store) : Prop where
  notLive : s'.isLive id = false
  kept : ∀ p row, p.touches id → s'.rows.get? p = some row → s.rows.get? p = some row
  deleted : ∀ p row, p.touches id → s.rows.get? p = some row → s'.rows.get? p = none →
    ∃ m ∈ done, m.Deletes p row

namespace Dwindled

theorem refl (hid : s.isLive id = false) : Dwindled id s [] s where
  notLive := hid
  kept _ _ _ h := h
  deleted _ _ _ hrow hgone := by cases hrow.symm.trans hgone

theorem trans (h : Dwindled id s done s') (h' : Dwindled id s' rest s'') :
    Dwindled id s (done ++ rest) s'' where
  notLive := h'.notLive
  kept p row hp hrow := h.kept p row hp (h'.kept p row hp hrow)
  deleted p row hp hrow hgone := by
    cases hbetween : s'.rows.get? p with
    | none =>
      obtain ⟨m, hm, hdeletes⟩ := h.deleted p row hp hrow hbetween
      exact ⟨m, List.mem_append_left _ hm, hdeletes⟩
    | some row' =>
      obtain rfl : row = row' := Option.some.inj (hrow.symm.trans (h.kept p row' hp hbetween))
      obtain ⟨m, hm, hdeletes⟩ := h'.deleted p row hp hbetween hgone
      exact ⟨m, List.mem_append_right _ hm, hdeletes⟩

theorem carryOut (hs : s.Coherent) (hid : s.isLive id = false)
    (haway : (Moment.of policy now s step).brings id = false) :
    Dwindled id s [.of policy now s step] (step.carryOut policy now s).2 where
  notLive := isLive_of_not_brings hid haway
  kept p row hp hrow := by
    rcases get?_carryOut_of_not_live hs hid hp policy now step with hsame | hnone
    · rwa [hsame] at hrow
    · rw [hnone] at hrow
      cases hrow
  deleted p row _ hrow hgone := ⟨_, List.mem_singleton_self _, deletes_of_carryOut hs hrow hgone⟩

end Dwindled

theorem dwindled_store (hs : s.Coherent) (hid : s.isLive id = false) (policy : Policy)
    (history : History) (haway : ∀ m ∈ history.moments policy s, m.brings id = false) :
    Dwindled id s (history.moments policy s) (history.store policy s) := by
  induction history generalizing s with
  | nil => exact .refl hid
  | cons first rest ih =>
    obtain ⟨now, step⟩ := first
    obtain ⟨hfirst, hrest⟩ := List.forall_mem_cons.1 haway
    have hstep := Dwindled.carryOut hs hid hfirst
    exact hstep.trans (ih (hs.carryOut policy now step) hstep.notLive hrest)

/-- While an account is not live, whatever happens short of its coming: its rows are some of those
that there were, with the status and the time that they had; those that are missing were deleted by
a removal or a rejection; no list shows it, and its own is not found. Whoever still has a row with
another account, be they live or not, can remove it. -/
theorem retired_dwindles {past : Policy} (h : s.Reachable past) (hid : s.isLive id = false)
    (policy : Policy) (history : History)
    (haway : ∀ m ∈ history.moments policy s, m.brings id = false) :
    let left := history.store policy s
    (∀ p row, p.touches id → left.rows.get? p = some row → s.rows.get? p = some row) ∧
    (∀ p row, p.touches id → s.rows.get? p = some row → left.rows.get? p = none →
      ∃ m ∈ history.moments policy s, m.Deletes p row) ∧
    (∀ a b, (left.snapshot ⟨a, b⟩).isEmpty = false → ∀ policy now,
      (Service.perform (.memory now) policy left ⟨.removeFriend, a, b⟩).1.value = .ok () ∧
      (Service.perform (.memory now) policy left ⟨.removeFriend, a, b⟩).2.Stands ⟨a, b⟩
        .strangers) ∧
    (∀ owner, ∃ list, left.listVisible owner = .ok list ∧ ∀ e ∈ list, e.id ≠ id) ∧
    ∀ policy now, (Service.friends (.memory now) policy left id).1 =
      .error (if policy.emptyListIsNotFound then .friendsNotFound id else .userNotFound id) := by
  intro left
  have hdwindled : Dwindled id s _ left := dwindled_store h.coherent hid policy history haway
  have hleft : left.Coherent := h.coherent.store policy history
  refine ⟨hdwindled.kept, hdwindled.deleted, fun a b hrows policy now =>
    Service.perform_remove hleft hrows now policy, fun owner => ?_, fun policy now => ?_⟩
  · obtain ⟨list, hlist, -⟩ := hleft.listVisible owner
    refine ⟨list, hlist, ?_⟩
    rintro e he rfl
    have hlive := (hleft.of_mem hlist he).2.1
    exact Bool.false_ne_true (hdwindled.notLive.symm.trans hlive)
  · obtain ⟨list, hlist, hshape⟩ := hleft.listVisible id
    rw [hdwindled.notLive, if_neg Bool.false_ne_true] at hshape
    subst hshape
    rw [Service.friends_memory hleft.inUse hlist]
    cases policy.emptyListIsNotFound <;> simp [hdwindled.notLive]

end History

namespace Sample

/-- Alice cannot block Bob, who is gone, but she can part from him; then she cannot ask him. -/
def aftermath : History :=
  [(.ofSecond 7, .call (.transition ⟨.blockFriend, alice, bob⟩)),
    (.ofSecond 8, .call (.transition ⟨.removeFriend, alice, bob⟩)),
    (.ofSecond 9, .call (.transition ⟨.addFriend, alice, bob⟩))]

end Sample

namespace History

theorem retired_dwindles_aftermath :
    let s := Sample.parting.store {} .empty
    s.Reachable {} ∧ s.isLive Sample.bob = false ∧
    (∀ m ∈ Sample.aftermath.moments {} s, m.brings Sample.bob = false) ∧
    ∃ m ∈ Sample.aftermath.moments {} s,
      m.Deletes ⟨Sample.bob, Sample.alice⟩ ⟨.accepted, .ofSecond 4⟩ := by
  intro s
  have h : s.Reachable {} := Store.Reachable.empty.after _
  have hbob : s.isLive Sample.bob = false := by decide +kernel
  have haway : ∀ m ∈ Sample.aftermath.moments {} s, m.brings Sample.bob = false := by
    decide +kernel
  have hrow : s.rows.get? ⟨Sample.bob, Sample.alice⟩ = some ⟨.accepted, .ofSecond 4⟩ := by
    decide +kernel
  have hgone : (Sample.aftermath.store {} s).rows.get? ⟨Sample.bob, Sample.alice⟩ = none := by
    decide +kernel
  obtain ⟨-, hdeleted, -⟩ := retired_dwindles h hbob {} Sample.aftermath haway
  exact ⟨h, hbob, haway, hdeleted _ _ (Or.inl rfl) hrow hgone⟩

end History
end Friendship
