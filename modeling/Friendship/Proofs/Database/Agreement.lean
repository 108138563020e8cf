import Friendship.Proofs.Database.Tables

/-!
# Two stores that agree

A server that keeps tables and a store in memory that hold the same accounts and rows come to the
same end by every transition: `mutatePair_agrees`. They find out in different ways that an account
is not live, so they may name different accounts; the kind of error is the same.
-/
namespace Friendship

namespace RelationError

inductive Kind
  | notFound
  | invalidState
  | invalidArgument
  | internal
  deriving DecidableEq

def kind : RelationError → Kind
  | notFound _ => .notFound
  | invalidState .. => .invalidState
  | invalidArgument _ => .invalidArgument
  | internal _ => .internal

end RelationError

namespace Database

/-- Two stores hold the same accounts, live or deleted, and rows of the same statuses. -/
structure Mirrors (d s : Store) : Prop where
  accounts : ∀ id,
    (d.accounts.get? id).map Account.deleted = (s.accounts.get? id).map Account.deleted
  rows : ∀ p, d.status? p = s.status? p

namespace Mirrors

variable {d s : Store}

theorem refl (s : Store) : Mirrors s s := ⟨fun _ => rfl, fun _ => rfl⟩

theorem snapshot (h : Mirrors d s) (p : DirectedPair) : d.snapshot p = s.snapshot p := by
  rw [Store.snapshot_eq, Store.snapshot_eq, h.rows, h.rows]

theorem isLive (h : Mirrors d s) (id : AccountId) : d.isLive id = s.isLive id := by
  have hid := h.accounts id
  unfold Store.isLive
  cases hd : d.accounts.get? id <;> cases hs : s.accounts.get? id <;> simp_all

theorem missingEnd? (h : Mirrors d s) (plan : List Write) :
    d.missingEnd? plan = s.missingEnd? plan := by
  simp only [Store.missingEnd?, h.isLive]

/-- The same writes leave the same rows, whenever they are made. -/
theorem writeAll (h : Mirrors d s) (now now' : Instant) (plan : List Write) :
    Mirrors (d.writeAll now plan) (s.writeAll now' plan) where
  accounts := h.accounts
  rows p := by rw [Store.status?_writeAll, Store.status?_writeAll, h.rows]

end Mirrors

section Agreement

variable {d s : Store}

/-- The same transition has ends of the same kind and leaves the same rows. -/
theorem outcome_agrees (manner : Manner) (policy : Policy) (t : Transition) (now : Instant)
    (hs : s.poisoned = false) (h : Mirrors d s) :
    ((mutatePair t.pair (t.plan policy)).outcome (Ideal.server manner)
        ⟨d, none⟩).1.result.mapError RelationError.kind =
      (s.mutatePair now t.pair (t.plan policy)).1.result.mapError RelationError.kind ∧
    Mirrors
      ((mutatePair t.pair (t.plan policy)).outcome (Ideal.server manner) ⟨d, none⟩).2.published
      (s.mutatePair now t.pair (t.plan policy)).2 := by
  have hperm := manner.lockedOrder_perm (Ideal.pairRows d t.pair)
  by_cases hself : t.actor = t.other
  · -- The two rows of a pair may not be told apart here, but the planner does not look at them.
    obtain ⟨seen, hseen⟩ := snapshotOf_of_perm hperm
    have hrefused := Transition.plan_self hself policy
    simp only [outcome_mutatePair manner d hseen, Store.mutatePair, hs, hrefused]
    exact ⟨rfl, h⟩
  have hseen := snapshotOf_of_perm_of_ne (Transition.first_ne_second_pair.2 hself) hperm
  rw [h.snapshot] at hseen
  rw [outcome_mutatePair manner d hseen]
  have hrows : ∀ plan, t.plan policy (s.snapshot t.pair) = .ok plan →
      ∀ w ∈ plan, w.row = t.pair ∨ w.row = t.pair.reversed := by
    intro plan hplan w hw
    exact Transition.row_of_mem_plan hplan hw
  rcases Store.mutatePair_cases hs now t.pair (t.plan policy) with
    ⟨e, hplan, heq⟩ | ⟨plan, id, hplan, hend, heq⟩ | ⟨plan, hplan, hend, heq⟩
  · rw [heq, hplan]
    exact ⟨rfl, h⟩
  · rw [← h.missingEnd?] at hend
    obtain ⟨id', s', hs'⟩ := outcome_carryOut_of_dead manner d (hrows plan hplan) hend
    rw [heq, hplan, hs']
    exact ⟨rfl, h⟩
  · rw [← h.missingEnd?] at hend
    rw [heq, hplan, outcome_carryOut_of_live manner d (hrows plan hplan) hend]
    exact ⟨rfl, h.writeAll manner.now now plan⟩

/-- A transition on a server that keeps the tables of a store in use ends as it does in memory: with
the same number of writes or the same kind of error, and with the same rows. If any statement but
a rollback is made to fail, then so does the transition, and the server's tables are as before. -/
theorem mutatePair_agrees (manner : Manner) (policy : Policy) (t : Transition) (now : Instant)
    (hs : s.poisoned = false) (h : Mirrors d s) :
    let dialogue := mutatePair t.pair (t.plan policy)
    let onServer := dialogue.run (Ideal.server manner) ⟨d, none⟩
    let inMemory := s.mutatePair now t.pair (t.plan policy)
    onServer.result.result.mapError RelationError.kind =
      inMemory.1.result.mapError RelationError.kind ∧
    Mirrors onServer.server.published inMemory.2 ∧
    ∀ failure? : Nat → Option QueryError,
      let failing := dialogue.run ((Ideal.server manner).failing failure?) (⟨d, none⟩, 0)
      (∃ n q e, failing.statements[n]? = some q ∧ q ≠ .rollback ∧ failure? n = some e) →
        (∃ e, failing.result.result = .error e) ∧ failing.server.1.published = d := by
  obtain ⟨hresult, hrows⟩ := outcome_agrees manner policy t now hs h
  refine ⟨hresult, hrows, ?_⟩
  intro failure? failing
  rintro ⟨n, q, e, hq, hne, he⟩
  exact mutatePair_of_failure t.pair (t.plan policy) ⟨d, none⟩ hq hne he

end Agreement

end Database

namespace Sample

/-- Rows come in reverse, and a refusal names the constraint. -/
def manner : Database.Manner where
  now := .ofSecond 9
  lockedOrder := List.reverse
  lockedOrder_perm := List.reverse_perm
  retiredOrder := List.reverse
  retiredOrder_perm := List.reverse_perm
  listing s owner := (Database.friendJoin s owner).mergeSort Database.FriendRow.precedes
  isListing := Database.isListing_mergeSort
  refusal
    | .owner => ⟨1452, some "23000", "CONSTRAINT `fk_relationship_owner`"⟩
    | .counterparty => ⟨1452, some "23000", "CONSTRAINT `fk_relationship_counterparty`"⟩
    | .unknown => ⟨1452, some "23000", "a foreign key constraint fails"⟩
  foreignKey?_refusal key := by cases key <;> decide

end Sample

namespace Database

/-- A block whose commit fails. -/
theorem mutatePair_agrees_uncommitted :
    Mirrors Sample.members Sample.members ∧
    ((mutatePair ⟨Sample.alice, Sample.bob⟩
        (Transition.plan ⟨.blockFriend, Sample.alice, Sample.bob⟩ {})).run
      ((Ideal.server Sample.manner).failing fun n => if n = 5 then some .poolTimedOut else none)
      (⟨Sample.members, none⟩, 0)).server.1.published = Sample.members := by
  refine ⟨Mirrors.refl _, ?_⟩
  have h := (mutatePair_agrees Sample.manner {} ⟨.blockFriend, Sample.alice, Sample.bob⟩
    (.ofSecond 3) (s := Sample.members) rfl (Mirrors.refl _)).2.2
    fun n => if n = 5 then some .poolTimedOut else none
  exact (h ⟨5, .commit, .poolTimedOut, by rfl, by decide, by rfl⟩).2

end Database
end Friendship
