import Friendship.Proofs.Store.Standings
import Friendship.Service.History

/-!
# Coherent stores

A store is coherent if any two accounts stand in one of the five ways and nobody is related to
itself. Each step keeps that, so every history does: `statuses_of_history` says which statuses
the two rows of a pair can have together. In a coherent store a transition of the service is one
step of what is said of standings: `perform_refines`.
-/
namespace Friendship

namespace Service

variable {s : Store} {policy : Policy} {now : Instant} {t : Transition} {x : Standing}

/-- Asking for a friend list changes nothing. -/
@[simp] theorem friends_memory_store (now : Instant) (policy : Policy) (s : Store)
    (owner : AccountId) : (friends (.memory now) policy s owner).2 = s := by
  cases hlist : s.listVisible owner with
  | error e => rw [friends_of_error policy (Backend.memory_listVisible hlist now)]
  | ok list =>
    cases list with
    | cons entry rest => rw [friends_of_cons policy (Backend.memory_listVisible hlist now)]
    | nil =>
      rw [friends_of_nil policy (Backend.memory_listVisible hlist now)]
      split <;> rfl

/-- Accounts that come leave the rows alone. -/
theorem changed_insertAccount (s : Store) (id : AccountId) (username : String) (avatar : Int32) :
    (changed s (s.insertAccount id username avatar)).2.rows = s.rows ∧
      (changed s (s.insertAccount id username avatar)).2.poisoned = s.poisoned := by
  unfold Store.insertAccount
  split
  · exact ⟨rfl, rfl⟩
  · split <;> exact ⟨rfl, rfl⟩

/-- Accounts that go leave the rows alone. -/
theorem changed_deleteAccount (s : Store) (id : AccountId) :
    (changed s (s.deleteAccount id)).2.rows = s.rows ∧
      (changed s (s.deleteAccount id)).2.poisoned = s.poisoned := by
  unfold Store.deleteAccount
  split
  · exact ⟨rfl, rfl⟩
  · cases s.accounts.get? id <;> exact ⟨rfl, rfl⟩

/-- A transition of a store in use answers and logs as the standing of its accounts says. -/
theorem perform_of_stands (hs : s.poisoned = false) (hx : s.Stands t.pair x) (now : Instant)
    (policy : Policy) :
    perform (.memory now) policy s t =
      match x.after policy s.isLive t with
      | .error e => (⟨.error e, transitionLog t (.error e)⟩, s)
      | .ok y =>
        (⟨.ok (), transitionLog t (.ok (x.writes t y).length)⟩, s.writeAll now (x.writes t y)) := by
  simp only [perform, Backend.memory, Store.mutatePair_of_stands hs hx now policy]
  cases x.after policy s.isLive t <;> rfl

end Service

namespace Store

variable {s : Store} {policy : Policy}

/-- The store is in use, nobody is related to itself, and any two accounts stand in some way. -/
structure Coherent (s : Store) : Prop where
  inUse : s.poisoned = false
  irreflexive : ∀ p : DirectedPair, p.first = p.second → s.rows.get? p = none
  stands : ∀ p : DirectedPair, p.first ≠ p.second → ∃ x, s.Stands p x

namespace Coherent

theorem empty : Coherent .empty where
  inUse := rfl
  irreflexive _ _ := rfl
  stands _ _ := ⟨.strangers, rfl⟩

/-- An account stands to itself as to a stranger. -/
theorem stands_self (h : s.Coherent) {p : DirectedPair} (hp : p.first = p.second) :
    s.Stands p .strangers := by
  have hp' : p.reversed.first = p.reversed.second := hp.symm
  simp [Stands, snapshot, h.irreflexive p hp, h.irreflexive p.reversed hp', Standing.snapshot]

theorem exists_stands (h : s.Coherent) (p : DirectedPair) : ∃ x, s.Stands p x := by
  by_cases hp : p.first = p.second
  · exact ⟨.strangers, h.stands_self hp⟩
  · exact h.stands p hp

/-- Two accounts that have a row are not one, and stand in some other way than strangers. -/
theorem exists_related (h : s.Coherent) {p : DirectedPair}
    (hrows : (s.snapshot p).isEmpty = false) :
    ∃ x, s.Stands p x ∧ x ≠ .strangers ∧ p.first ≠ p.second := by
  have hstrangers : ¬ s.Stands p .strangers := fun hnone => by
    rw [stands_strangers_iff.1 hnone] at hrows
    cases hrows
  obtain ⟨x, hx⟩ := h.exists_stands p
  refine ⟨x, hx, ?_, fun hp => hstrangers (h.stands_self hp)⟩
  rintro rfl
  exact hstrangers hx

/-- Only the rows and whether the store is in use count. -/
theorem congr {s' : Store} (h : s.Coherent) (hrows : s'.rows = s.rows)
    (hpoisoned : s'.poisoned = s.poisoned) : s'.Coherent where
  inUse := hpoisoned.trans h.inUse
  irreflexive p hp := by rw [hrows]; exact h.irreflexive p hp
  stands p hp := by
    obtain ⟨x, hx⟩ := h.stands p hp
    refine ⟨x, ?_⟩
    unfold Stands snapshot at hx ⊢
    rw [hrows, hx]

/-- What a transition writes moves the standing of its pair and leaves every other as it was. -/
theorem writeAll {t : Transition} {x y : Standing} (h : s.Coherent) (hx : s.Stands t.pair x)
    (hy : x.after policy s.isLive t = .ok y) (now : Instant) :
    (s.writeAll now (x.writes t y)).Coherent where
  inUse := h.inUse
  irreflexive p hp := by
    have hne : t.pair.first ≠ t.pair.second :=
      Transition.first_ne_second_pair.2 (Standing.distinct_of_after hy)
    rw [get?_writeAll_writes hy now]
    · exact h.irreflexive p hp
    · rintro rfl
      exact hne hp
    · rintro rfl
      exact hne hp.symm
  stands p hp := by
    have hmoved := stands_writeAll hx hy now
    by_cases h₁ : p = t.pair
    · exact ⟨y, h₁ ▸ hmoved⟩
    by_cases h₂ : p = t.pair.reversed
    · exact ⟨y.reversed, h₂ ▸ hmoved.reversed⟩
    obtain ⟨z, hz⟩ := h.stands p hp
    refine ⟨z, ?_⟩
    have h₁' : p.reversed ≠ t.pair := fun e => h₂ (DirectedPair.reversed_eq_iff.1 e)
    have h₂' : p.reversed ≠ t.pair.reversed := fun e => h₁ (DirectedPair.reversed_eq_iff.1 e)
    unfold Stands snapshot at hz ⊢
    rw [get?_writeAll_writes hy now h₁ h₂, get?_writeAll_writes hy now h₁' h₂', hz]

theorem perform (h : s.Coherent) (now : Instant) (policy : Policy) (t : Transition) :
    (Service.perform (.memory now) policy s t).2.Coherent := by
  obtain ⟨x, hx⟩ := h.exists_stands t.pair
  rw [Service.perform_of_stands h.inUse hx]
  cases hy : x.after policy s.isLive t with
  | error e => exact h
  | ok y => exact h.writeAll hx hy now

theorem carryOut (h : s.Coherent) (policy : Policy) (now : Instant) (step : Service.Step) :
    (step.carryOut policy now s).2.Coherent := by
  cases step with
  | call c =>
    cases c with
    | transition t => exact h.perform now policy t
    | friends owner =>
      have hsame : (Service.call (.memory now) policy s (.friends owner)).2 = s :=
        Service.friends_memory_store now policy s owner
      simp only [Service.Step.carryOut, hsame]
      exact h
  | insertAccount id username avatar =>
    obtain ⟨hrows, hpoisoned⟩ := Service.changed_insertAccount s id username avatar
    exact h.congr hrows hpoisoned
  | deleteAccount id =>
    obtain ⟨hrows, hpoisoned⟩ := Service.changed_deleteAccount s id
    exact h.congr hrows hpoisoned

theorem store (h : s.Coherent) (policy : Policy) (history : History) :
    (history.store policy s).Coherent := by
  induction history generalizing s with
  | nil => exact h
  | cons first rest ih => exact ih (h.carryOut policy first.1 first.2)

/-- Each step of a history finds a coherent store. -/
theorem of_mem_moments (h : s.Coherent) {history : History} {m : History.Moment}
    (hm : m ∈ history.moments policy s) :
    m.before.Coherent ∧ m = .of policy m.now m.before m.step := by
  induction history generalizing s with
  | nil => cases hm
  | cons first rest ih =>
    rcases List.mem_cons.1 hm with rfl | hm
    · exact ⟨h, rfl⟩
    · exact ih (h.carryOut policy first.1 first.2) hm

end Coherent

/-- Every store that histories lead to is coherent. -/
theorem Reachable.coherent (h : s.Reachable policy) : s.Coherent := by
  induction h with
  | empty => exact Coherent.empty
  | step _ now step ih => exact ih.carryOut policy now step

/-- After any history nobody is related to itself, and the statuses of the two rows between two
accounts are among five combinations: no rows, a request in one direction or the other, and two
rows that are both accepted or both blocked. -/
theorem statuses_of_history (policy : Policy) (history : History) :
    (∀ p row, (history.store policy .empty).rows.get? p = some row → p.first ≠ p.second) ∧
    ∀ a b : AccountId, a ≠ b →
      ((history.store policy .empty).status? ⟨a, b⟩,
        (history.store policy .empty).status? ⟨b, a⟩) ∈
      [(none, none), (some .pending, none), (none, some .pending),
        (some .accepted, some .accepted), (some .blocked, some .blocked)] := by
  have h : (history.store policy .empty).Coherent := (Reachable.empty.after history).coherent
  generalize history.store policy .empty = s at h
  constructor
  · intro p row hrow hp
    rw [h.irreflexive p hp] at hrow
    cases hrow
  · intro a b hab
    obtain ⟨x, hx⟩ := h.stands ⟨a, b⟩ hab
    have hf : s.status? ⟨a, b⟩ = x.snapshot.forward := congrArg Snapshot.forward hx
    have hb : s.status? ⟨b, a⟩ = x.snapshot.backward := congrArg Snapshot.backward hx
    rw [hf, hb]
    cases x <;> simp [Standing.snapshot]

end Store

namespace Sample

/-- Alice and Bob join, and Alice asks Bob. -/
def request : History :=
  [(.ofSecond 0, .insertAccount alice "alice" 1),
    (.ofSecond 1, .insertAccount bob "bob" 2),
    (.ofSecond 2, .call (.transition ⟨.addFriend, alice, bob⟩))]

/-- Alice cannot accept her own request, but Bob does; then he is gone and blocked no more. -/
def parting : History :=
  request ++
    [(.ofSecond 3, .call (.transition ⟨.acceptFriend, alice, bob⟩)),
      (.ofSecond 4, .call (.transition ⟨.acceptFriend, bob, alice⟩)),
      (.ofSecond 5, .deleteAccount bob),
      (.ofSecond 6, .call (.transition ⟨.blockFriend, alice, bob⟩))]

end Sample

namespace Store

theorem statuses_after_parting :
    Sample.alice ≠ Sample.bob ∧
    (Sample.parting.store {} .empty).status? ⟨Sample.alice, Sample.bob⟩ = some .accepted ∧
    (Sample.parting.store {} .empty).status? ⟨Sample.bob, Sample.alice⟩ = some .accepted := by
  have hne : Sample.alice ≠ Sample.bob := by decide
  have hrow : (Sample.parting.store {} .empty).status? ⟨Sample.alice, Sample.bob⟩ =
      some .accepted := by decide +kernel
  refine ⟨hne, hrow, ?_⟩
  have h := (statuses_of_history {} Sample.parting).2 Sample.alice Sample.bob hne
  -- Of the five combinations one alone has an accepted row.
  rw [hrow] at h
  simpa using h

end Store

namespace Service

/-- A transition between accounts that stand in some way answers as is said of standings. On a
refusal nothing changes; else the two stand as is said, all other rows and the accounts stay, and
where no row is written anew and the standing stays, nothing changes at all. -/
theorem perform_refines {past : Policy} {s : Store} (h : s.Reachable past) (policy : Policy)
    (now : Instant) (t : Transition) :
    ∃ x, s.Stands t.pair x ∧
      match x.after policy s.isLive t with
      | .error e =>
        (perform (.memory now) policy s t).1.value = .error e ∧
          (perform (.memory now) policy s t).2 = s
      | .ok y =>
        (perform (.memory now) policy s t).1.value = .ok () ∧
          (perform (.memory now) policy s t).2.Stands t.pair y ∧
          (perform (.memory now) policy s t).2.accounts = s.accounts ∧
          (∀ p, p ≠ t.pair → p ≠ t.pair.reversed →
            (perform (.memory now) policy s t).2.rows.get? p = s.rows.get? p) ∧
          (y = x → Standing.renews t.action x = false →
            (perform (.memory now) policy s t).2 = s) := by
  obtain ⟨x, hx⟩ := h.coherent.exists_stands t.pair
  refine ⟨x, hx, ?_⟩
  rw [perform_of_stands h.coherent.inUse hx]
  cases hy : x.after policy s.isLive t with
  | error e => exact ⟨rfl, rfl⟩
  | ok y =>
    refine ⟨rfl, Store.stands_writeAll hx hy now, rfl,
      fun p => Store.get?_writeAll_writes hy now, ?_⟩
    rintro rfl hold
    have hnone : y.writes t y = [] := by simp [Standing.writes, hold]
    change s.writeAll now (y.writes t y) = s
    rw [hnone, Store.writeAll_nil]

theorem perform_refines_request :
    (Sample.request.store {} .empty).Reachable {} ∧
    (perform (.memory (.ofSecond 3)) {} (Sample.request.store {} .empty)
      ⟨.acceptFriend, Sample.bob, Sample.alice⟩).2.Stands ⟨Sample.alice, Sample.bob⟩ .friends := by
  have h : (Sample.request.store {} .empty).Reachable {} := Store.Reachable.empty.after _
  refine ⟨h, ?_⟩
  obtain ⟨x, hx, hstep⟩ := perform_refines h {} (.ofSecond 3)
    ⟨.acceptFriend, Sample.bob, Sample.alice⟩
  have hasking : (Sample.request.store {} .empty).Stands ⟨Sample.alice, Sample.bob⟩ .asking := by
    unfold Store.Stands
    decide +kernel
  obtain rfl : x = .asking := hx.unique hasking
  have hy : Standing.asking.after {} (Sample.request.store {} .empty).isLive
      ⟨.acceptFriend, Sample.bob, Sample.alice⟩ = .ok .friends := by rfl
  rw [hy] at hstep
  exact hstep.2.1

end Service
end Friendship
