import Friendship.Proofs.Service.Steps

/-!
# Pairs do not depend on each other

What a transition answers and what it makes of its two rows is settled by these rows and by the
accounts; it does not depend on the time or on any other row. So two stores that agree on a pair
agree on it after every step that bears on the pair, and a step that does not leaves them in
agreement: `AgreeOn.carryOut` and `AgreeOn.carryOut_left`. From both, `glimpses_restrict` says that
a pair goes through a history as if there were no other transitions in it.
-/
namespace Friendship

namespace Store

variable {p : DirectedPair} {s s' : Store}

/-- Two stores have the same accounts, both or neither are in use, and the rows of a pair have the
same statuses. -/
structure AgreeOn (p : DirectedPair) (s s' : Store) : Prop where
  accounts : s.accounts = s'.accounts
  poisoned : s.poisoned = s'.poisoned
  snapshot : s.snapshot p = s'.snapshot p

namespace AgreeOn

theorem refl (p : DirectedPair) (s : Store) : AgreeOn p s s := ⟨rfl, rfl, rfl⟩

theorem symm (h : AgreeOn p s s') : AgreeOn p s' s :=
  ⟨h.accounts.symm, h.poisoned.symm, h.snapshot.symm⟩

theorem trans {s'' : Store} (h : AgreeOn p s s') (h' : AgreeOn p s' s'') : AgreeOn p s s'' :=
  ⟨h.accounts.trans h'.accounts, h.poisoned.trans h'.poisoned, h.snapshot.trans h'.snapshot⟩

theorem status? (h : AgreeOn p s s') :
    s.status? p = s'.status? p ∧ s.status? p.reversed = s'.status? p.reversed :=
  ⟨congrArg Snapshot.forward h.snapshot, congrArg Snapshot.backward h.snapshot⟩

theorem status?_of_isBetween {t : Transition} {q : DirectedPair} (h : AgreeOn t.pair s s')
    (ht : t.isBetween q = true) : s.status? q = s'.status? q := by
  obtain ⟨hforward, hbackward⟩ := h.status?
  rcases Transition.eq_pair_or_eq_reversed ht with rfl | rfl
  · exact hforward
  · exact hbackward

/-- It does not matter from which side a pair is seen. -/
theorem reversed (h : AgreeOn p s s') : AgreeOn p.reversed s s' where
  accounts := h.accounts
  poisoned := h.poisoned
  snapshot := by
    obtain ⟨hforward, hbackward⟩ := h.status?
    rw [snapshot_eq, snapshot_eq, DirectedPair.reversed_reversed, hforward, hbackward]

theorem missingEnd? (h : AgreeOn p s s') (plan : List Write) :
    s.missingEnd? plan = s'.missingEnd? plan := by
  simp only [Store.missingEnd?, Store.isLive, h.accounts]

theorem writeAll (h : AgreeOn p s s') (now now' : Instant) (plan : List Write) :
    AgreeOn p (s.writeAll now plan) (s'.writeAll now' plan) where
  accounts := h.accounts
  poisoned := h.poisoned
  snapshot := by rw [snapshot_writeAll, snapshot_writeAll, h.snapshot]

/-- Changing a pair comes to the same end in stores that agree on it, at whatever times. -/
theorem mutatePair (h : AgreeOn p s s') (now now' : Instant) (planner : Planner) :
    (s.mutatePair now p planner).1 = (s'.mutatePair now' p planner).1 ∧
      AgreeOn p (s.mutatePair now p planner).2 (s'.mutatePair now' p planner).2 := by
  cases hs : s.poisoned with
  | true =>
    have hs' : s'.poisoned = true := h.poisoned.symm.trans hs
    simp only [Store.mutatePair, hs, hs', if_true]
    exact ⟨trivial, h⟩
  | false =>
    have hs' : s'.poisoned = false := h.poisoned.symm.trans hs
    simp only [Store.mutatePair, hs, hs', Bool.false_eq_true, if_false, ← h.snapshot]
    cases planner (s.snapshot p) with
    | error e => exact ⟨rfl, h⟩
    | ok plan =>
      simp only [apply, ← h.missingEnd? plan]
      cases s.missingEnd? plan with
      | some id => exact ⟨rfl, h⟩
      | none => exact ⟨rfl, h.writeAll now now' plan⟩

/-- A transition between the accounts of a pair comes to the same end in stores that agree on the
pair. -/
theorem perform {t : Transition} (h : AgreeOn p s s') (ht : t.isBetween p = true)
    (now now' : Instant) (policy : Policy) :
    (Service.perform (.memory now) policy s t).1 =
        (Service.perform (.memory now') policy s' t).1 ∧
      AgreeOn p (Service.perform (.memory now) policy s t).2
        (Service.perform (.memory now') policy s' t).2 := by
  rcases Transition.eq_pair_or_eq_reversed ht with rfl | rfl
  · obtain ⟨hattempt, hstore⟩ := h.mutatePair now now' (t.plan policy)
    refine ⟨?_, hstore⟩
    simp only [Service.perform, Backend.memory, hattempt]
  · obtain ⟨hattempt, hstore⟩ := h.reversed.mutatePair now now' (t.plan policy)
    refine ⟨?_, hstore.reversed⟩
    simp only [DirectedPair.reversed_reversed] at hattempt
    simp only [Service.perform, Backend.memory, hattempt]

/-- A transition between other accounts leaves a store in agreement with itself. -/
theorem perform_left {t : Transition} (ht : t.isBetween p = false) (now : Instant)
    (policy : Policy) (s : Store) : AgreeOn p (Service.perform (.memory now) policy s t).2 s where
  accounts := Service.accounts_perform now policy s t
  poisoned := Service.poisoned_perform now policy s t
  snapshot := Service.snapshot_perform ht now policy s

end AgreeOn
end Store

namespace Service.Step

/-- Whether a step bears on how the accounts of a pair stand: transitions between them do, and so
do accounts that come and go. Transitions on other pairs do not, and neither do calls for friend
lists, whose answers tell of other pairs. -/
def bearsOn (p : DirectedPair) : Step → Bool
  | .call (.transition t) => t.isBetween p
  | .call (.friends _) => false
  | .insertAccount .. | .deleteAccount _ => true

end Service.Step

namespace Store.AgreeOn

variable {p : DirectedPair} {s s' : Store}

/-- A step that bears on a pair is answered alike by stores that agree on it, and leaves them in
agreement. -/
theorem carryOut (h : AgreeOn p s s') {step : Service.Step} (hstep : step.bearsOn p = true)
    (policy : Policy) (now : Instant) :
    (step.carryOut policy now s).1 = (step.carryOut policy now s').1 ∧
      AgreeOn p (step.carryOut policy now s).2 (step.carryOut policy now s').2 := by
  cases step with
  | call c =>
    cases c with
    | transition t =>
      obtain ⟨hanswer, hstore⟩ := h.perform hstep now now policy
      refine ⟨?_, hstore⟩
      simp only [Service.Step.carryOut_transition, hanswer]
    | friends owner => cases hstep
  | insertAccount id username avatar =>
    have hsnap := h.snapshot
    simp only [Service.Step.carryOut, Store.insertAccount, ← h.poisoned, ← h.accounts]
    split
    · exact ⟨rfl, h⟩
    · split
      · exact ⟨rfl, h⟩
      · exact ⟨rfl, rfl, rfl, hsnap⟩
  | deleteAccount id =>
    have hsnap := h.snapshot
    simp only [Service.Step.carryOut, Store.deleteAccount, ← h.poisoned, ← h.accounts]
    split
    · exact ⟨rfl, h⟩
    · cases s.accounts.get? id with
      | none => exact ⟨rfl, h⟩
      | some account => exact ⟨rfl, rfl, rfl, hsnap⟩

/-- A step that does not bear on a pair leaves a store in agreement with itself. -/
theorem carryOut_left {step : Service.Step} (hstep : step.bearsOn p = false) (policy : Policy)
    (now : Instant) (s : Store) : AgreeOn p (step.carryOut policy now s).2 s := by
  cases step with
  | call c =>
    cases c with
    | transition t => exact perform_left hstep now policy s
    | friends owner =>
      have hsame : (Service.call (.memory now) policy s (.friends owner)).2 = s :=
        Service.friends_memory_store now policy s owner
      simp only [Service.Step.carryOut, hsame]
      exact refl p s
  | insertAccount _ _ _ => cases hstep
  | deleteAccount _ => cases hstep

end Store.AgreeOn

namespace History

variable {p : DirectedPair}

/-- The steps of a history that bear on a pair. -/
def restrict (p : DirectedPair) (history : History) : History :=
  history.filter fun (_, step) => step.bearsOn p

/-- What is seen of a step that bears on a pair: its answer, and the statuses of the two rows after
it. -/
def glimpses (p : DirectedPair) (moments : List Moment) : List (Service.Answer × Snapshot) :=
  (moments.filter fun m => m.step.bearsOn p).map fun m => (m.answer, m.after.snapshot p)

/-- A history and the part of it that bears on a pair show the same of the pair, from stores that
agree on it. -/
theorem glimpses_restrict {s s' : Store} (h : Store.AgreeOn p s s') (policy : Policy)
    (history : History) :
    glimpses p ((history.restrict p).moments policy s') =
      glimpses p (history.moments policy s) := by
  induction history generalizing s s' with
  | nil => rfl
  | cons first rest ih =>
    obtain ⟨now, step⟩ := first
    cases hstep : step.bearsOn p with
    | true =>
      obtain ⟨hanswer, hafter⟩ := h.carryOut hstep policy now
      have hrest := ih hafter
      simp only [restrict, glimpses] at hrest
      simp [restrict, glimpses, hstep, hrest, hanswer, hafter.snapshot]
    | false =>
      have hrest := ih ((Store.AgreeOn.carryOut_left hstep policy now s).trans h)
      simp only [restrict, glimpses] at hrest
      simp [restrict, glimpses, hstep, hrest]

end History

namespace Service

variable {t u : Transition} {p : DirectedPair}

/-- Two transitions between different accounts come to the same ends in either order, at whatever
times. -/
theorem perform_comm (htu : t.isBetween u.pair = false) (policy : Policy) (s : Store)
    (now₁ now₂ now₃ now₄ : Instant) :
    let first := perform (.memory now₁) policy s t
    let second := perform (.memory now₂) policy first.2 u
    let second' := perform (.memory now₃) policy s u
    let first' := perform (.memory now₄) policy second'.2 t
    first'.1 = first.1 ∧ second'.1 = second.1 ∧
      ∀ p, first'.2.status? p = second.2.status? p := by
  intro first second second' first'
  have hut : u.isBetween t.pair = false := (Transition.isBetween_pair_comm u t).trans htu
  obtain ⟨hfirst, hrows⟩ := (Store.AgreeOn.perform_left hut now₃ policy s).perform
    (Transition.isBetween_pair t) now₄ now₁ policy
  obtain ⟨hsecond, hrows'⟩ := (Store.AgreeOn.perform_left htu now₁ policy s).symm.perform
    (Transition.isBetween_pair u) now₃ now₂ policy
  refine ⟨hfirst, hsecond, fun p => ?_⟩
  -- A row is written by one of the two transitions at most, and the other leaves it.
  cases ht : t.isBetween p with
  | true =>
    have hu : u.isBetween p = false := Transition.isBetween_eq_false_of_pair ht hut
    rw [status?_perform hu]
    exact hrows.status?_of_isBetween ht
  | false =>
    rw [status?_perform ht]
    cases hu : u.isBetween p with
    | true => exact hrows'.status?_of_isBetween hu
    | false => rw [status?_perform hu, status?_perform hu, status?_perform ht]

/-- How two accounts stand does not depend on what others do: without the transitions on other
pairs a history shows the same of a pair, each answer and the statuses after it. And two
transitions on different pairs, which may share an account, can change places. -/
theorem pairs_independent (policy : Policy) :
    (∀ (s : Store) (history : History) (p : DirectedPair),
      History.glimpses p ((history.restrict p).moments policy s) =
        History.glimpses p (history.moments policy s)) ∧
    ∀ (s : Store) (t u : Transition) (now₁ now₂ now₃ now₄ : Instant),
      t.isBetween u.pair = false →
      let first := perform (.memory now₁) policy s t
      let second := perform (.memory now₂) policy first.2 u
      let second' := perform (.memory now₃) policy s u
      let first' := perform (.memory now₄) policy second'.2 t
      first'.1 = first.1 ∧ second'.1 = second.1 ∧
        ∀ p, first'.2.status? p = second.2.status? p :=
  ⟨fun s history p => History.glimpses_restrict (.refl p s) policy history,
    fun s _ _ now₁ now₂ now₃ now₄ htu => perform_comm htu policy s now₁ now₂ now₃ now₄⟩

end Service

namespace Sample

def carol : AccountId := ⟨List.replicate 16 3, rfl⟩

end Sample

namespace Service

/-- Alice blocks Bob and asks Carol, whom nobody knows. -/
theorem pairs_independent_shared :
    (⟨.blockFriend, Sample.alice, Sample.bob⟩ : Transition).isBetween
        ⟨Sample.alice, Sample.carol⟩ = false ∧
    ∀ p,
      (perform (.memory (.ofSecond 4)) {}
        (perform (.memory (.ofSecond 3)) {} (Sample.request.store {} .empty)
          ⟨.addFriend, Sample.alice, Sample.carol⟩).2
        ⟨.blockFriend, Sample.alice, Sample.bob⟩).2.status? p =
      (perform (.memory (.ofSecond 2)) {}
        (perform (.memory (.ofSecond 1)) {} (Sample.request.store {} .empty)
          ⟨.blockFriend, Sample.alice, Sample.bob⟩).2
        ⟨.addFriend, Sample.alice, Sample.carol⟩).2.status? p := by
  have hne : (⟨.blockFriend, Sample.alice, Sample.bob⟩ : Transition).isBetween
      ⟨Sample.alice, Sample.carol⟩ = false := by decide
  refine ⟨hne, ?_⟩
  exact ((pairs_independent {}).2 (Sample.request.store {} .empty)
    ⟨.blockFriend, Sample.alice, Sample.bob⟩ ⟨.addFriend, Sample.alice, Sample.carol⟩
    (.ofSecond 1) (.ofSecond 2) (.ofSecond 3) (.ofSecond 4) hne).2.2

end Service
end Friendship
