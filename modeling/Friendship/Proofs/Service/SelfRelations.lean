import Friendship.Proofs.Relation.Plans
import Friendship.Proofs.Service.Faults

/-!
# Transitions of an account towards itself

Nobody is related to itself, but it is the planner that says so, and the planner is asked only when
the rows of the pair are shown to it. What happens until then, and what can fail, is the same as for
any other transition: `perform_self`.
-/
namespace Friendship

namespace Database

/-- Locked rows that cannot be read have a status that is none. -/
theorem eq_unknownStatus_of_snapshotOf {p : DirectedPair} {rows : List (DirectedPair × String)}
    {e : RelationError} (h : snapshotOf p rows = .error e) :
    ∃ text, e = .internal (.unknownStatus text) := by
  unfold snapshotOf at h
  generalize ({} : Snapshot) = start at h
  induction rows generalizing start with
  | nil => cases h
  | cons row rows ih =>
    obtain ⟨q, text⟩ := row
    cases htext : Status.ofText? text with
    | none =>
      simp only [List.foldlM_cons, readStatus, htext, bind, Except.bind, Except.error.injEq] at h
      exact ⟨text, h.symm⟩
    | some status =>
      simp only [List.foldlM_cons, readStatus, htext, bind, Except.bind, pure, Except.pure] at h
      exact ih _ h

/-- The rows of a pair are locked and can be read. -/
def Shown (p : DirectedPair) (held : List Exchange) : Prop :=
  ∃ rows seen, locked p rows ∈ held ∧ snapshotOf p rows = .ok seen

section Refused

variable {p : DirectedPair} {planner : Planner} {sent closing : List Exchange} {attempt : Attempt}

theorem Transaction.shown_iff (h : Transaction p planner sent closing attempt) :
    Shown p (sent ++ closing) ↔ attempt.seen.isSome = true := by
  constructor
  · rintro ⟨rows, seen, hlocked, hseen⟩
    have hsent : locked p rows ∈ sent := by
      rcases List.mem_append.1 hlocked with hsent | hclosing
      · exact hsent
      · cases h.closing_eq_rollback _ hclosing
    rw [(h.orderly.shown seen).2 ⟨rows, hsent, hseen⟩]
    rfl
  · intro hsome
    obtain ⟨seen, hseen⟩ := Option.isSome_iff_exists.1 hsome
    obtain ⟨rows, hlocked, hrows⟩ := (h.orderly.shown seen).1 hseen
    exact ⟨rows, seen, List.mem_append_left _ hlocked, hrows⟩

/-- What a planner that always refuses comes to: it is asked if and only if the rows are shown, and
else the store is what failed. -/
theorem Transaction.refused {refusal : RelationError}
    (hplanner : ∀ seen, planner seen = .error refusal)
    (h : Transaction p planner sent closing attempt) :
    ((sent ++ closing).map Exchange.statement = [.start] ∨
      (sent ++ closing).map Exchange.statement = [.start, .lockPair p, .rollback]) ∧
    (Shown p (sent ++ closing) ∧ attempt.result = .error refusal ∨
      ¬ Shown p (sent ++ closing) ∧ ∃ fault, attempt.result = .error (.internal fault)) := by
  rw [h.shown_iff]
  cases h with
  | notBegun e => exact ⟨.inl rfl, .inr ⟨nofun, _, rfl⟩⟩
  | notLocked e reply => exact ⟨.inr rfl, .inr ⟨nofun, _, rfl⟩⟩
  | unreadable hrows reply =>
    obtain ⟨text, rfl⟩ := eq_unknownStatus_of_snapshotOf hrows
    exact ⟨.inr rfl, .inr ⟨nofun, _, rfl⟩⟩
  | failed hrows hheld reply =>
    rw [hplanner] at hheld
    cases hheld
    exact ⟨.inr rfl, .inl ⟨rfl, rfl⟩⟩
  | succeeded hrows hheld =>
    rw [hplanner] at hheld
    cases hheld

end Refused

end Database

namespace Sample

/-- Alice asks herself. -/
def asksHerself : Transition := ⟨.addFriend, alice, alice⟩

end Sample

namespace Service

open Database (Exchange Shown closedPool)

/-- What a transition of an account towards itself comes to. A store in use turns it away and stays
as it is, and a poisoned one tells that it is poisoned. Over a server a transaction is begun and the
rows of the pair are locked before anybody looks at the accounts: the transition is turned away if
and only if the rows are shown, and else the store is what failed. -/
theorem perform_self {t : Transition} (h : t.actor = t.other) (policy : Policy) :
    (∀ (now : Instant) (s : Store),
      (perform (.memory now) policy s t).2 = s ∧
      (perform (.memory now) policy s t).1.value = .error
        (if s.poisoned then .internal .poisoned
          else .invalidArgument (.selfRelation t.action t.actor))) ∧
    ∀ {σ : Type} (server : Database.Server σ) (c : Backend.Connection σ),
      ∃ held, (perform (.database server) policy c t).2.exchanges = c.exchanges ++ held ∧
        (held.map Exchange.statement = [.start] ∨
          held.map Exchange.statement = [.start, .lockPair t.pair, .rollback]) ∧
        (Shown t.pair held ∧ (perform (.database server) policy c t).1.value =
            .error (.invalidArgument (.selfRelation t.action t.actor)) ∨
          ¬ Shown t.pair held ∧ ∃ fault, (perform (.database server) policy c t).1.value =
            .error (.internal fault)) := by
  have hplan : ∀ seen, t.plan policy seen =
      .error (.invalidArgument (.selfRelation t.action t.actor)) := Transition.plan_self h policy
  constructor
  · intro now s
    simp only [perform, Backend.memory]
    cases hs : s.poisoned with
    | true =>
      rw [mutatePair_poisoned hs]
      exact ⟨rfl, rfl⟩
    | false =>
      simp only [Store.mutatePair, hs, hplan, Bool.false_eq_true, if_false]
      exact ⟨trivial, rfl⟩
  · intro σ server c
    obtain ⟨sent, closing, attempt, hexchanges, hvalue, htransaction⟩ :=
      transaction_perform server policy c t
    obtain ⟨hsent, hresult⟩ := htransaction.refused hplan
    refine ⟨sent ++ closing, hexchanges, hsent, ?_⟩
    rw [hvalue]
    rcases hresult with ⟨hshown, hresult⟩ | ⟨hshown, fault, hresult⟩
    · exact .inl ⟨hshown, by rw [hresult]; rfl⟩
    · exact .inr ⟨hshown, fault, by rw [hresult]; rfl⟩

/-- An empty store turns Alice away. So does a server that has no rows of hers, after it has begun a
transaction and been asked for them; a closed pool does not. -/
theorem perform_self_alice :
    let p : DirectedPair := ⟨Sample.alice, Sample.alice⟩
    let refusal := RelationError.invalidArgument (.selfRelation .addFriend Sample.alice)
    let server := ({} : Database.Script).server
    let asked := perform (.database server) {} ⟨[], []⟩ Sample.asksHerself
    let lost := perform (.database closedPool) {} ⟨(), []⟩ Sample.asksHerself
    (perform (.memory (.ofSecond 0)) {} .empty Sample.asksHerself).1.value = .error refusal ∧
    (asked.2.statements = [.start, .lockPair p, .rollback] ∧ Shown p asked.2.exchanges ∧
      asked.1.value = .error refusal) ∧
    lost.2.statements = [.start] ∧ ¬ Shown p lost.2.exchanges ∧
      ∃ fault, lost.1.value = .error (.internal fault) := by
  intro p refusal server asked lost
  obtain ⟨hmemory, hserver⟩ := perform_self (t := Sample.asksHerself) rfl {}
  refine ⟨(hmemory (.ofSecond 0) .empty).2, ?_, ?_⟩
  · obtain ⟨held, hheld, -, ⟨hshown, hvalue⟩ | ⟨-, fault, hvalue⟩⟩ := hserver server ⟨[], []⟩
    · exact ⟨rfl, hheld ▸ hshown, hvalue⟩
    · cases hvalue
  · obtain ⟨held, hheld, -, ⟨-, hvalue⟩ | ⟨hshown, hvalue⟩⟩ := hserver closedPool ⟨(), []⟩
    · cases hvalue
    · exact ⟨rfl, hheld ▸ hshown, hvalue⟩

/-- A transition of an account towards itself is not always turned away, and not before a server is
told of it: a closed pool is told of Alice's, and fails. -/
theorem not_turned_away_first :
    ¬ ∀ (t : Transition) (policy : Policy), t.actor = t.other →
      (∀ (now : Instant) (s : Store), (perform (.memory now) policy s t).1.value =
        .error (.invalidArgument (.selfRelation t.action t.actor))) ∧
      ∀ {σ : Type} (server : Database.Server σ) (c : Backend.Connection σ),
        (perform (.database server) policy c t).1.value =
          .error (.invalidArgument (.selfRelation t.action t.actor)) ∧
        (perform (.database server) policy c t).2.statements = c.statements := by
  intro h
  obtain ⟨-, hserver⟩ := h Sample.asksHerself {} rfl
  obtain ⟨hvalue, -⟩ := hserver closedPool ⟨(), []⟩
  have hclosed : (perform (.database closedPool) {} ⟨(), []⟩ Sample.asksHerself).1.value =
      .error (.internal (.query .start .poolClosed)) := rfl
  rw [hclosed] at hvalue
  cases hvalue

end Service
end Friendship
