import Friendship.Proofs.Service.Consent
import Friendship.Proofs.Service.FriendList
import Mathlib.Data.List.Forall2

/-!
# What a policy decides

A plan asks the policy in two cases only: a request is accepted that is not there, or a pair is
unblocked that has rows but is not blocked (`plan_congr`). In the first case nothing is written
whatever the policy says, so two policies that say the same of unblocking take a store through the
same changes, and their answers differ where nothing is accepted or nothing is listed
(`moments_narrow`). In the second case the strict policy refuses what the other one carries out, and
from there on two runs may go different ways (`first_refusal`).
-/
namespace Friendship

/-- The policy, with unblocking what is not blocked refused or tolerated. -/
def Policy.unblocking (policy : Policy) (strict : Bool) : Policy :=
  { policy with strictUnblock := strict }

namespace Transition

variable {t : Transition} {seen : Snapshot} {P Q : Policy}

/-- The transition accepts a request that is not there. -/
def AcceptsNothing (t : Transition) (seen : Snapshot) : Prop :=
  t.action = .acceptFriend ∧ seen.forward ≠ some .pending

/-- The transition unblocks a pair that has rows but is not blocked. -/
def UnblocksOther (t : Transition) (seen : Snapshot) : Prop :=
  t.action = .unblockFriend ∧ seen.isEmpty = false ∧ seen.isSymmetric .blocked = false

instance : Decidable (t.AcceptsNothing seen) := inferInstanceAs (Decidable (_ ∧ _))

instance : Decidable (t.UnblocksOther seen) := inferInstanceAs (Decidable (_ ∧ _))

theorem plan_of_acceptsNothing (hne : t.actor ≠ t.other) (h : t.AcceptsNothing seen)
    (policy : Policy) :
    t.plan policy seen =
      if policy.strictAccept then .error (.userNotFound t.other) else .ok [] := by
  obtain ⟨action, actor, other⟩ := t
  obtain ⟨rfl, hforward⟩ := h
  simp only [plan, hne, if_false, planDistinct, if_neg hforward]

theorem plan_of_unblocksOther (hne : t.actor ≠ t.other) (h : t.UnblocksOther seen)
    (policy : Policy) :
    t.plan policy seen =
      if policy.strictUnblock then .error (.invalidState .blocked (seen.forward.or seen.backward))
      else .ok (symmetric t.pair .accepted) := by
  obtain ⟨action, actor, other⟩ := t
  obtain ⟨rfl, hrows, hblocked⟩ := h
  simp [plan, hne, planDistinct, hrows, hblocked]

/-- Policies plan alike where they say the same of what they are asked. -/
theorem plan_congr (haccept : t.AcceptsNothing seen → P.strictAccept = Q.strictAccept)
    (hunblock : t.UnblocksOther seen → P.strictUnblock = Q.strictUnblock) :
    t.plan P seen = t.plan Q seen := by
  by_cases hself : t.actor = t.other
  · rw [plan_self hself, plan_self hself]
  by_cases ha : t.AcceptsNothing seen
  · rw [plan_of_acceptsNothing hself ha, plan_of_acceptsNothing hself ha, haccept ha]
  by_cases hu : t.UnblocksOther seen
  · rw [plan_of_unblocksOther hself hu, plan_of_unblocksOther hself hu, hunblock hu]
  clear haccept hunblock
  obtain ⟨action, actor, other⟩ := t
  simp only [plan, hself, if_false]
  cases action with
  | acceptFriend =>
    have hforward : seen.forward = some .pending := by simpa [AcceptsNothing] using ha
    simp only [planDistinct, hforward, if_true]
  | unblockFriend =>
    simp only [UnblocksOther, true_and] at hu
    cases hempty : seen.isEmpty with
    | true => simp only [planDistinct, hempty, if_true]
    | false =>
      have hblocked : seen.isSymmetric .blocked = true := by simpa [hempty] using hu
      simp only [planDistinct, hblocked, Bool.not_true, Bool.and_false]
  | addFriend => rfl
  | rejectFriend => rfl
  | removeFriend => rfl
  | blockFriend => rfl

end Transition

namespace Service

variable {s : Store} {now : Instant} {t : Transition} {P Q : Policy}

/-- A policy bears on a transition by the plan alone. -/
theorem perform_congr
    (h : t.plan P (s.snapshot t.pair) = t.plan Q (s.snapshot t.pair)) (now : Instant) :
    perform (.memory now) P s t = perform (.memory now) Q s t := by
  simp only [perform, Backend.memory, Store.mutatePair, h]

/-- Two policies make a difference to a transition only between two accounts of a store in use, and
where they say different things of what they are asked. -/
theorem asked_of_perform_ne (h : perform (.memory now) P s t ≠ perform (.memory now) Q s t) :
    s.poisoned = false ∧ t.actor ≠ t.other ∧
      (t.AcceptsNothing (s.snapshot t.pair) ∧ P.strictAccept ≠ Q.strictAccept ∨
        t.UnblocksOther (s.snapshot t.pair) ∧ P.strictUnblock ≠ Q.strictUnblock) := by
  have hplan : t.plan P (s.snapshot t.pair) ≠ t.plan Q (s.snapshot t.pair) :=
    fun hplan => h (perform_congr hplan now)
  refine ⟨?_, ?_, ?_⟩
  · cases hs : s.poisoned with
    | false => rfl
    | true =>
      refine absurd ?_ h
      simp only [perform, Backend.memory, Store.mutatePair, hs, if_true]
  · intro hself
    exact hplan (by rw [Transition.plan_self hself, Transition.plan_self hself])
  · refine Decidable.byContradiction fun hnone => ?_
    obtain ⟨haccept, hunblock⟩ := not_or.1 hnone
    exact hplan (Transition.plan_congr
      (fun ha => Decidable.byContradiction fun hne => haccept ⟨ha, hne⟩)
      fun hu => Decidable.byContradiction fun hne => hunblock ⟨hu, hne⟩)

/-- The answer where nothing is accepted. -/
def acceptedNothing (policy : Policy) (t : Transition) : Except RelationError (List Friend) :=
  if policy.strictAccept then .error (.userNotFound t.other) else .ok []

/-- The answer where nothing is listed. -/
def listedNothing (policy : Policy) (s : Store) (owner : AccountId) :
    Except RelationError (List Friend) :=
  if policy.emptyListIsNotFound then .error (.friendsNotFound owner)
  else if s.isLive owner then .ok []
  else .error (.userNotFound owner)

/-- How the answers to a step may differ between two policies that say the same of unblocking. -/
inductive Narrows (P Q : Policy) (s : Store) :
    Step → Except RelationError (List Friend) → Except RelationError (List Friend) → Prop
  | same (step : Step) (value : Except RelationError (List Friend)) : Narrows P Q s step value value
  | acceptedNothing {t : Transition} (h : t.AcceptsNothing (s.snapshot t.pair)) :
    Narrows P Q s (.call (.transition t)) (acceptedNothing P t) (acceptedNothing Q t)
  | listedNothing {owner : AccountId} (h : s.listVisible owner = .ok []) :
    Narrows P Q s (.call (.friends owner)) (listedNothing P s owner) (listedNothing Q s owner)

theorem carryOut_of_acceptsNothing (hs : s.poisoned = false) (hne : t.actor ≠ t.other)
    (h : t.AcceptsNothing (s.snapshot t.pair)) (now : Instant) (policy : Policy) :
    (Step.carryOut policy now s (.call (.transition t))).1.value = acceptedNothing policy t ∧
      (Step.carryOut policy now s (.call (.transition t))).2 = s := by
  have hplan := Transition.plan_of_acceptsNothing hne h policy
  simp only [Step.carryOut_transition, perform, Backend.memory, Store.mutatePair, hs, hplan,
    acceptedNothing, Bool.false_eq_true, if_false]
  cases policy.strictAccept <;> exact ⟨rfl, rfl⟩

/-- A transition changes a store alike under policies that say the same of unblocking. -/
theorem narrows_transition (h : P.strictUnblock = Q.strictUnblock) (s : Store) (now : Instant)
    (t : Transition) :
    let step := Step.call (.transition t)
    Narrows P Q s step (step.carryOut P now s).1.value (step.carryOut Q now s).1.value ∧
      (step.carryOut P now s).2 = (step.carryOut Q now s).2 := by
  intro step
  by_cases hsame : perform (.memory now) P s t = perform (.memory now) Q s t
  · simp only [step, Step.carryOut_transition, hsame]
    exact ⟨.same _ _, trivial⟩
  · obtain ⟨hs, hne, ⟨ha, -⟩ | ⟨-, hdiff⟩⟩ := asked_of_perform_ne hsame
    · obtain ⟨hvalue, hstore⟩ := carryOut_of_acceptsNothing hs hne ha now P
      obtain ⟨hvalue', hstore'⟩ := carryOut_of_acceptsNothing hs hne ha now Q
      rw [hvalue, hvalue', hstore, hstore']
      exact ⟨.acceptedNothing ha, rfl⟩
    · exact absurd h hdiff

theorem narrows_friends (P Q : Policy) (s : Store) (now : Instant) (owner : AccountId) :
    Narrows P Q s (.call (.friends owner)) (friends (.memory now) P s owner).1
      (friends (.memory now) Q s owner).1 := by
  cases hlist : s.listVisible owner with
  | error e =>
    have hlisted := Backend.memory_listVisible hlist now
    rw [friends_of_error P hlisted, friends_of_error Q hlisted]
    exact .same _ _
  | ok list =>
    have hs : s.poisoned = false := by
      cases hs : s.poisoned with
      | false => rfl
      | true => simp [Store.listVisible, hs] at hlist
    rw [friends_memory hs hlist, friends_memory hs hlist]
    cases list with
    | nil => exact .listedNothing hlist
    | cons entry rest => exact .same _ _

/-- A step changes a store alike under policies that say the same of unblocking. -/
theorem narrows_carryOut (h : P.strictUnblock = Q.strictUnblock) (s : Store) (now : Instant)
    (step : Step) :
    Narrows P Q s step (step.carryOut P now s).1.value (step.carryOut Q now s).1.value ∧
      (step.carryOut P now s).2 = (step.carryOut Q now s).2 := by
  cases step with
  | call c =>
    cases c with
    | transition t => exact narrows_transition h s now t
    | friends owner =>
      refine ⟨narrows_friends P Q s now owner, ?_⟩
      exact (friends_memory_store now P s owner).trans (friends_memory_store now Q s owner).symm
  | insertAccount id username avatar => exact ⟨.same _ _, rfl⟩
  | deleteAccount id => exact ⟨.same _ _, rfl⟩

/-- To unblock a pair that has rows but is not blocked is refused for that reason under the strict
policy only. -/
theorem carryOut_of_unblocksOther (hs : s.poisoned = false) (hne : t.actor ≠ t.other)
    (h : t.UnblocksOther (s.snapshot t.pair)) (now : Instant) (policy : Policy) :
    (∃ found, (Step.carryOut policy now s (.call (.transition t))).1.value =
      .error (.invalidState .blocked found)) ↔ policy.strictUnblock = true := by
  have hvalue : (Step.carryOut policy now s (.call (.transition t))).1.value =
      ((s.mutatePair now t.pair (t.plan policy)).1.result.map fun _ => ()).map fun _ => [] := rfl
  rw [hvalue, Store.result_mutatePair hs, Transition.plan_of_unblocksOther hne h]
  cases policy.strictUnblock with
  | true => simp [Except.bind, Except.map]
  | false =>
    simp only [Bool.false_eq_true, if_false, Except.bind, iff_false, not_exists]
    intro found
    cases s.missingEnd? (Transition.symmetric t.pair .accepted) <;>
      simp [Store.toldMissing, Except.map, RelationError.userNotFound]

/-- A transition unblocks a pair that has rows but is not blocked, which the strict policy refuses
for that reason and the tolerant one does not. -/
structure RefusedAlone (policy : Policy) (s : Store) (now : Instant) (t : Transition) : Prop where
  unblocks : t.UnblocksOther (s.snapshot t.pair)
  strict : ∃ found, (Step.carryOut (policy.unblocking true) now s (.call (.transition t))).1.value =
    .error (.invalidState .blocked found)
  tolerant : ∀ found,
    (Step.carryOut (policy.unblocking false) now s (.call (.transition t))).1.value ≠
      .error (.invalidState .blocked found)

/-- Two policies that say different things of unblocking alone carry a step out alike, unless the
strict one alone refuses it. -/
theorem carryOut_unblocking (policy : Policy) (s : Store) (now : Instant) (step : Step) :
    step.carryOut (policy.unblocking true) now s = step.carryOut (policy.unblocking false) now s ∨
      ∃ t, step = .call (.transition t) ∧ RefusedAlone policy s now t := by
  cases step with
  | call c =>
    cases c with
    | transition t =>
      by_cases hsame : perform (.memory now) (policy.unblocking true) s t =
          perform (.memory now) (policy.unblocking false) s t
      · left
        simp only [Step.carryOut_transition, hsame]
      · obtain ⟨hs, hne, ⟨-, hdiff⟩ | ⟨hu, -⟩⟩ := asked_of_perform_ne hsame
        · exact absurd rfl hdiff
        · refine Or.inr ⟨t, rfl, hu, (carryOut_of_unblocksOther hs hne hu now _).2 rfl, ?_⟩
          intro found hrefused
          exact Bool.false_ne_true ((carryOut_of_unblocksOther hs hne hu now _).1 ⟨found, hrefused⟩)
    | friends owner => exact Or.inl rfl
  | insertAccount id username avatar => exact Or.inl rfl
  | deleteAccount id => exact Or.inl rfl

end Service

namespace History

variable {P Q : Policy}

/-- Two moments of one step that differ in the answer at most, and there as `Service.Narrows`
says. -/
structure Moment.Narrows (P Q : Policy) (m m' : Moment) : Prop where
  now : m.now = m'.now
  step : m.step = m'.step
  before : m.before = m'.before
  after : m.after = m'.after
  value : Service.Narrows P Q m.before m.step m.answer.value m'.answer.value

/-- Under policies that say the same of unblocking, histories change a store alike. -/
theorem moments_narrow (h : P.strictUnblock = Q.strictUnblock) (s : Store) (history : History) :
    List.Forall₂ (Moment.Narrows P Q) (history.moments P s) (history.moments Q s) := by
  induction history generalizing s with
  | nil => exact .nil
  | cons first rest ih =>
    obtain ⟨now, step⟩ := first
    obtain ⟨hvalue, hstore⟩ := Service.narrows_carryOut h s now step
    rw [moments_cons, moments_cons, ← hstore]
    exact .cons ⟨rfl, rfl, rfl, rfl, hvalue⟩ (ih _)

/-- Two policies that say different things of unblocking alone take a history the same way, up to
the first call that the strict one refuses because it unblocks what is not blocked. -/
theorem first_refusal (policy : Policy) (s : Store) (history : History) :
    history.moments (policy.unblocking true) s = history.moments (policy.unblocking false) s ∨
      ∃ (earlier : History) (now : Instant) (t : Transition) (later : History),
        history = earlier ++ (now, .call (.transition t)) :: later ∧
        earlier.moments (policy.unblocking true) s =
          earlier.moments (policy.unblocking false) s ∧
        earlier.store (policy.unblocking true) s = earlier.store (policy.unblocking false) s ∧
        Service.RefusedAlone policy (earlier.store (policy.unblocking true) s) now t := by
  induction history generalizing s with
  | nil => exact Or.inl rfl
  | cons first rest ih =>
    obtain ⟨now, step⟩ := first
    rcases Service.carryOut_unblocking policy s now step with hsame | ⟨t, rfl, hrefused⟩
    · rw [moments_cons, moments_cons, ← hsame]
      rcases ih (step.carryOut (policy.unblocking true) now s).2 with
        hrest | ⟨earlier, now', t, later, rfl, hearlier, hstore, hrefused⟩
      · exact Or.inl (congrArg _ hrest)
      · refine Or.inr ⟨(now, step) :: earlier, now', t, later, rfl, ?_, ?_, hrefused⟩
        · rw [moments_cons, moments_cons, ← hsame, hearlier]
        · rw [store_cons, store_cons, ← hsame, hstore]
    · exact Or.inr ⟨[], now, t, rest, rfl, rfl, rfl, hrefused⟩

/-- Policies only narrow what is answered, whatever store a history starts from. If two of them say
the same of unblocking, all stores on the way are the same, and answers differ at most where nothing
is accepted or nothing is listed. If they say different things of unblocking alone and the strict
one never refuses to unblock for the state of the pair, nothing differs; else the first difference
is such a refusal, for a pair that has rows but is not blocked. -/
theorem policies_narrow (s : Store) (history : History) :
    (∀ P Q : Policy, P.strictUnblock = Q.strictUnblock →
      List.Forall₂ (Moment.Narrows P Q) (history.moments P s) (history.moments Q s)) ∧
    ∀ policy : Policy,
      let strict := policy.unblocking true
      let tolerant := policy.unblocking false
      ((∀ m ∈ history.moments strict s, ∀ t,
          m.step = .call (.transition t) → t.action = .unblockFriend →
          ∀ expected found, m.answer.value ≠ .error (.invalidState expected found)) →
        history.moments strict s = history.moments tolerant s) ∧
      (history.moments strict s = history.moments tolerant s ∨
        ∃ (earlier : History) (now : Instant) (t : Transition) (later : History),
          history = earlier ++ (now, .call (.transition t)) :: later ∧
          earlier.moments strict s = earlier.moments tolerant s ∧
          earlier.store strict s = earlier.store tolerant s ∧
          Service.RefusedAlone policy (earlier.store strict s) now t) := by
  refine ⟨fun P Q h => moments_narrow h s history, fun policy => ⟨fun hnone => ?_, ?_⟩⟩
  · rcases first_refusal policy s history with
      hsame | ⟨earlier, now, t, later, rfl, -, -, hrefused⟩
    · exact hsame
    · obtain ⟨found, hstrict⟩ := hrefused.strict
      have hmem := mem_moments (policy.unblocking true) s earlier now (.call (.transition t)) later
      exact absurd hstrict (hnone _ hmem t rfl hrefused.unblocks.1 _ _)
  · exact first_refusal policy s history

/-- Alice accepts nothing, which one policy tolerates and the other one does not; and she lifts a
block, which no policy refuses. -/
theorem policies_narrow_parting :
    let s := Sample.joining.store {} .empty
    (({} : Policy).strictUnblock = ({ strictAccept := true } : Policy).strictUnblock ∧
      List.Forall₂ (Moment.Narrows {} { strictAccept := true })
        (Sample.parting.moments {} .empty)
        (Sample.parting.moments { strictAccept := true } .empty)) ∧
    (∀ m ∈ Sample.unasked.moments (Sample.strict.unblocking true) s, m.answer.value = .ok []) ∧
    Sample.unasked.moments (Sample.strict.unblocking true) s =
      Sample.unasked.moments (Sample.strict.unblocking false) s := by
  intro s
  have hagree : ({} : Policy).strictUnblock = ({ strictAccept := true } : Policy).strictUnblock :=
    rfl
  have htaken : ∀ m ∈ Sample.unasked.moments (Sample.strict.unblocking true) s,
      m.answer.value = .ok [] := by decide +kernel
  refine ⟨⟨hagree, (policies_narrow .empty Sample.parting).1 _ _ hagree⟩, htaken, ?_⟩
  refine ((policies_narrow s Sample.unasked).2 Sample.strict).1 fun m hm t _ _ expected found => ?_
  rw [htaken m hm]
  exact fun h => by cases h

end History
end Friendship
