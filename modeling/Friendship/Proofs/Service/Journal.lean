import Friendship.Proofs.Account.IdText
import Friendship.Proofs.Relation.Moves
import Friendship.Proofs.Service.Steps

/-!
# The log as a journal of changes

The service tells each change of rows by one event with the action, the pair and the number of
writes: `perform_changes`. The last of the events that name a pair says how its accounts stand, and
a request that is answered is the event just before the answer: `Faithful`. As no step breaks that,
`journal_faithful` has it for every history.
-/
namespace Friendship

theorem Action.name_inj {a b : Action} : a.name = b.name ↔ a = b := by
  cases a <;> cases b <;> decide

namespace Service

variable {t : Transition} {p q : DirectedPair} {action : Action} {n : Nat}

/-- The event for a change of rows. -/
def changeEvent (action : Action) (p : DirectedPair) (writes : Nat) : Log.Event :=
  ⟨.info, logTarget, none,
    [("transition", .quoted action.name), ("first", .shown p.first.text),
      ("second", .shown p.second.text), ("writes", .number writes)]⟩

/-- The events of a log that tell of changes are those of one level. -/
def changes (log : List Log.Event) : List Log.Event := log.filter fun e => e.level = .info

/-- The event has the two accounts of a pair, in this order. -/
def names (p : DirectedPair) (e : Log.Event) : Bool :=
  ("first", .shown p.first.text) ∈ e.fields ∧ ("second", .shown p.second.text) ∈ e.fields

/-- The changes that a log tells of a pair, in either order of its accounts. -/
def journal (p : DirectedPair) (log : List Log.Event) : List Log.Event :=
  (changes log).filter fun e => names p e || names p.reversed e

/-- An event tells one action on one pair. -/
theorem changeEvent_inj {action' : Action} {n' : Nat} :
    changeEvent action p n = changeEvent action' q n' ↔ action = action' ∧ p = q ∧ n = n' := by
  obtain ⟨first, second⟩ := p
  obtain ⟨first', second'⟩ := q
  simp [changeEvent, Action.name_inj, AccountId.text_inj, and_assoc]

theorem names_changeEvent : names p (changeEvent action q n) = true ↔ q = p := by
  obtain ⟨first, second⟩ := p
  obtain ⟨first', second'⟩ := q
  have h : names ⟨first, second⟩ (changeEvent action ⟨first', second'⟩ n) = true ↔
      first = first' ∧ second = second' := by
    simp [names, changeEvent, AccountId.text_inj]
  rw [h, DirectedPair.mk.injEq]
  exact and_congr eq_comm eq_comm

@[simp] theorem journal_nil (p : DirectedPair) : journal p [] = [] := rfl

theorem journal_append (p : DirectedPair) (log log' : List Log.Event) :
    journal p (log ++ log') = journal p log ++ journal p log' := by
  simp [journal, changes]

theorem journal_reversed (p : DirectedPair) (log : List Log.Event) :
    journal p.reversed log = journal p log := by
  simp only [journal, DirectedPair.reversed_reversed, Bool.or_comm]

/-- Of the results of a transition only one with writes is told as a change. -/
theorem changes_transitionLog (t : Transition) (result : Except RelationError Nat) :
    changes (transitionLog t result) =
      match result with
      | .ok n => if n = 0 then [] else [changeEvent t.action t.pair n]
      | .error _ => [] := by
  cases result with
  | error e =>
    simp only [transitionLog]
    split <;> rfl
  | ok n => cases n <;> rfl

theorem mem_changes_transitionLog {result : Except RelationError Nat} {e : Log.Event}
    (he : e ∈ changes (transitionLog t result)) : ∃ n, e = changeEvent t.action t.pair n := by
  rw [changes_transitionLog] at he
  cases result with
  | error _ => cases he
  | ok n =>
    simp only at he
    split at he
    · cases he
    · exact ⟨n, List.mem_singleton.1 he⟩

/-- A transition is told in the journal of its own pair, and in no other one. -/
theorem journal_transitionLog (p : DirectedPair) (t : Transition)
    (result : Except RelationError Nat) :
    journal p (transitionLog t result) =
      if t.isBetween p then changes (transitionLog t result) else [] := by
  have hnames : ∀ e ∈ changes (transitionLog t result),
      (names p e || names p.reversed e) = t.isBetween p := by
    intro e he
    obtain ⟨n, rfl⟩ := mem_changes_transitionLog he
    rw [Bool.eq_iff_iff, Bool.or_eq_true, names_changeEvent, names_changeEvent,
      Transition.isBetween_iff]
  unfold journal
  split
  · rename_i ht
    exact List.filter_eq_self.2 fun e he => (hnames e he).trans ht
  · rename_i ht
    exact List.filter_eq_nil_iff.2 fun e he => by rwa [hnames e he]

/-- What is no transition between the accounts of a pair is not told in their journal. -/
theorem journal_carryOut {step : Step} (h : step.isOn p = false) (policy : Policy) (now : Instant)
    (s : Store) : journal p (step.carryOut policy now s).1.log = [] := by
  by_cases hstep : ∃ t, step = .call (.transition t)
  · obtain ⟨t, rfl⟩ := hstep
    have ht : t.isBetween p = false := h
    simp [Step.carryOut_transition, perform, journal_transitionLog, ht]
  · rw [Step.log_carryOut fun t ht => hstep ⟨t, ht⟩]
    rfl

/-- The events that name a pair are faithful to how its accounts stand. -/
structure Faithful (p : DirectedPair) (events : List Log.Event) (s : Store) : Prop where
  /-- The last event says how they stand; without any they are strangers. -/
  last : match events.getLast? with
    | none => s.Stands p .strangers
    | some e => ∃ action q n, (q = p ∨ q = p.reversed) ∧ e = changeEvent action q n ∧
        s.Stands q (Standing.left action)
  /-- A request that is answered is the event just before the answer. -/
  answered : ∀ earlier action q n later, events = earlier ++ changeEvent action q n :: later →
    action = .acceptFriend ∨ action = .rejectFriend →
    ∃ before m, earlier = before ++ [changeEvent .addFriend q m]

namespace Faithful

variable {events : List Log.Event} {s s' : Store} {x y : Standing}

theorem reversed (h : Faithful p events s) : Faithful p.reversed events s where
  last := by
    have hlast := h.last
    cases hevents : events.getLast? with
    | none =>
      rw [hevents] at hlast
      exact hlast.reversed
    | some e =>
      rw [hevents] at hlast
      obtain ⟨action, q, n, hq, he, hstands⟩ := hlast
      exact ⟨action, q, n, hq.symm, he, hstands⟩
  answered := h.answered

/-- A store in which the accounts of a pair stand as before has the same journal of it. -/
theorem congr (h : Faithful p events s)
    (hs : ∀ q x, q = p ∨ q = p.reversed → s.Stands q x → s'.Stands q x) :
    Faithful p events s' where
  last := by
    have hlast := h.last
    cases hevents : events.getLast? with
    | none =>
      rw [hevents] at hlast
      exact hs p _ (Or.inl rfl) hlast
    | some e =>
      rw [hevents] at hlast
      obtain ⟨action, q, n, hq, he, hstands⟩ := hlast
      exact ⟨action, q, n, hq, he, hs q _ hq hstands⟩
  answered := h.answered

/-- Where one account has asked the other, the last event says so. -/
theorem last_of_asking (h : Faithful p events s) (hx : s.Stands p .asking) :
    ∃ before m, events = before ++ [changeEvent .addFriend p m] := by
  have hlast := h.last
  cases hevents : events.getLast? with
  | none =>
    rw [hevents] at hlast
    exact absurd (hx.unique hlast) (by decide)
  | some e =>
    rw [hevents] at hlast
    obtain ⟨action, q, n, hq, he, hstands⟩ := hlast
    obtain ⟨before, hbefore⟩ := List.getLast?_eq_some_iff.1 hevents
    rcases hq with rfl | rfl
    · have hleft : Standing.asking = Standing.left action := hx.unique hstands
      obtain rfl : action = .addFriend := Standing.left_eq_asking_iff.1 hleft.symm
      exact ⟨before, n, he ▸ hbefore⟩
    · have hleft : Standing.asked = Standing.left action := hx.reversed.unique hstands
      exact absurd hleft.symm (Standing.left_ne_asked action)

/-- The event of a change that was made keeps the journal of its pair faithful. -/
theorem change (h : Faithful t.pair events s) (hx : s.Stands t.pair x)
    {policy : Policy} (hxy : Standing.Moves policy t.action x y) (hwrites : x.writes t y ≠ [])
    (hy : s'.Stands t.pair y) (n : Nat) :
    Faithful t.pair (events ++ [changeEvent t.action t.pair n]) s' where
  last := by
    have hleft : y = Standing.left t.action :=
      (hxy.writes_cases.resolve_left fun hnone => hwrites hnone.2).1
    rw [List.getLast?_concat]
    exact ⟨t.action, t.pair, n, Or.inl rfl, rfl, hleft ▸ hy⟩
  answered := by
    intro earlier action q m later heq haction
    rcases List.eq_nil_or_concat later with rfl | ⟨later, e, rfl⟩
    · obtain ⟨rfl, hlast⟩ := List.append_inj' heq rfl
      obtain ⟨rfl, rfl, -⟩ := changeEvent_inj.1 (List.singleton_inj.1 hlast)
      obtain rfl := hxy.asking_of_answer hwrites haction
      exact h.last_of_asking hx
    · rw [List.concat_eq_append, ← List.cons_append, ← List.append_assoc] at heq
      obtain ⟨hevents, -⟩ := List.append_inj' heq rfl
      exact h.answered earlier action q m later hevents haction

/-- A transition between the accounts of a pair keeps its journal faithful. -/
theorem perform (h : Faithful t.pair events s) (hs : s.Coherent) (now : Instant) (policy : Policy) :
    Faithful t.pair
      (events ++ journal t.pair (Service.perform (.memory now) policy s t).1.log)
      (Service.perform (.memory now) policy s t).2 := by
  obtain ⟨x, hx⟩ := hs.exists_stands t.pair
  rw [perform_of_stands hs.inUse hx]
  cases hy : x.after policy s.isLive t with
  | error e => simpa [journal_transitionLog, changes_transitionLog] using h
  | ok y =>
    have hmoves := Standing.moves_of_next (Standing.next_of_after hy)
    simp only [journal_transitionLog, Transition.isBetween_pair, if_true, changes_transitionLog,
      List.length_eq_zero_iff]
    split
    · rename_i hnone
      simpa [hnone] using h
    · rename_i hwrites
      exact h.change hx hmoves hwrites (Store.stands_writeAll hx hy now) _

/-- Every step keeps the journal of every pair faithful. -/
theorem carryOut (h : Faithful p events s) (hs : s.Coherent) (policy : Policy) (now : Instant)
    (step : Step) :
    Faithful p (events ++ journal p (step.carryOut policy now s).1.log)
      (step.carryOut policy now s).2 := by
  cases hon : step.isOn p with
  | true =>
    obtain ⟨t, rfl, ht⟩ := Step.isOn_iff.1 hon
    rcases Transition.eq_pair_or_eq_reversed ht with rfl | rfl
    · exact h.perform hs now policy
    · rw [journal_reversed]
      exact (h.reversed.perform hs now policy).reversed
  | false =>
    have hnone : journal p (step.carryOut policy now s).1.log = [] :=
      journal_carryOut hon policy now s
    rw [hnone, List.append_nil]
    refine h.congr ?_
    rintro q x (rfl | rfl) hx
    · exact Step.stands_carryOut hon hx policy now
    · exact Step.stands_carryOut ((Step.isOn_reversed p step).trans hon) hx policy now

/-- Every history keeps the journal of every pair faithful. -/
theorem store (h : Faithful p events s) (hs : s.Coherent) (policy : Policy) (history : History) :
    Faithful p (events ++ journal p (history.log policy s)) (history.store policy s) := by
  induction history generalizing s events with
  | nil => simpa using h
  | cons first rest ih =>
    obtain ⟨now, step⟩ := first
    rw [History.log_cons, History.store_cons, journal_append, ← List.append_assoc]
    exact ih (h.carryOut hs policy now step) (hs.carryOut policy now step)

end Faithful

/-- A transition tells no change and changes nothing, or it writes rows, no row twice, and tells
how many in one event. -/
theorem perform_changes {s : Store} (hs : s.Coherent) (policy : Policy) (now : Instant)
    (t : Transition) :
    (changes (perform (.memory now) policy s t).1.log = [] ∧
      (perform (.memory now) policy s t).2 = s) ∨
    ∃ plan, plan ≠ [] ∧ (plan.map Write.row).Nodup ∧
      (∀ w ∈ plan, w.isPut = true ∨ (s.status? w.row).isSome = true) ∧
      (perform (.memory now) policy s t).2 = s.writeAll now plan ∧
      changes (perform (.memory now) policy s t).1.log =
        [changeEvent t.action t.pair plan.length] := by
  obtain ⟨x, hx⟩ := hs.exists_stands t.pair
  rw [perform_of_stands hs.inUse hx]
  cases hy : x.after policy s.isLive t with
  | error e => exact Or.inl ⟨changes_transitionLog t (.error e), rfl⟩
  | ok y =>
    by_cases hwrites : x.writes t y = []
    · left
      simp [hwrites, changes_transitionLog]
    · right
      refine ⟨x.writes t y, hwrites,
        Standing.nodup_row_writes (Standing.distinct_of_after hy) x y, ?_, rfl, ?_⟩
      · intro w hw
        rcases Standing.mem_writes hw with hput | ⟨hrow, hsome⟩ | ⟨hrow, hsome⟩
        · exact Or.inl hput
        · exact Or.inr (by rw [hrow, hx.forward, hsome])
        · exact Or.inr (by rw [hrow, hx.backward, hsome])
      · simp [changes_transitionLog, hwrites]

/-- The log of a history is a faithful journal of it. A transition that comes next either tells no
change and leaves the store as it is, or it writes rows and tells one change, with its name, its
pair and the number of its writes. How the accounts of any pair stand is told by the last change of
the pair, and each answer to a request comes right after the request. -/
theorem journal_faithful (policy : Policy) (history : History) :
    let s := history.store policy .empty
    (∀ (now : Instant) (t : Transition),
      (changes (perform (.memory now) policy s t).1.log = [] ∧
        (perform (.memory now) policy s t).2 = s) ∨
      ∃ plan, plan ≠ [] ∧ (plan.map Write.row).Nodup ∧
        (∀ w ∈ plan, w.isPut = true ∨ (s.status? w.row).isSome = true) ∧
        (perform (.memory now) policy s t).2 = s.writeAll now plan ∧
        changes (perform (.memory now) policy s t).1.log =
          [changeEvent t.action t.pair plan.length]) ∧
    ∀ p, Faithful p (journal p (history.log policy .empty)) s := by
  intro s
  have hs : s.Coherent := (Store.Reachable.empty.after history).coherent
  refine ⟨fun now t => perform_changes hs policy now t, fun p => ?_⟩
  have hempty : Faithful p [] .empty := ⟨rfl, by simp⟩
  exact hempty.store .empty policy history

/-- Alice's attempt to accept her own request and her block of an account that is gone are no
changes. -/
example : journal ⟨Sample.alice, Sample.bob⟩ (Sample.parting.log {} .empty) =
    [changeEvent .addFriend ⟨Sample.alice, Sample.bob⟩ 1,
      changeEvent .acceptFriend ⟨Sample.alice, Sample.bob⟩ 2] := by
  decide +kernel

end Service
end Friendship
