import Friendship.Proofs.Relation.Moves
import Friendship.Proofs.Service.Steps

/-!
# How two accounts come to be friends

Two accounts are friends because both have acted, or because a block between them was lifted:
lifting restores the friendship, also where there was none before the block, and unless the policy
forbids it also where there was no block. `Grounds` says for each standing what must have
happened, `Grounds.transition` that a transition keeps it, and `friends_grounds` what follows for
histories. `friends_of_one_account` shows that one account can bring the friendship about alone.
-/
namespace Friendship

namespace History

/-- The transition that a moment is, if it is one between the accounts of a pair and succeeded. -/
def Moment.success? (p : DirectedPair) (m : Moment) : Option Transition :=
  match m.step, m.answer.value with
  | .call (.transition t), .ok _ => if t.isBetween p then some t else none
  | _, _ => none

theorem Moment.success?_of {t : Transition} {p : DirectedPair} (ht : t.isBetween p = true)
    (policy : Policy) (now : Instant) (s : Store) :
    (Moment.of policy now s (.call (.transition t))).success? p =
      (Service.perform (.memory now) policy s t).1.value.toOption.map fun _ => t := by
  simp only [Moment.success?, Service.Step.carryOut_transition]
  cases (Service.perform (.memory now) policy s t).1.value <;>
    simp [Except.map, Except.toOption, ht]

theorem Moment.success?_of_not_isOn {step : Service.Step} {p : DirectedPair}
    (hon : step.isOn p = false) (policy : Policy) (now : Instant) (s : Store) :
    (Moment.of policy now s step).success? p = none := by
  cases step with
  | call c =>
    cases c with
    | transition t =>
      have ht : t.isBetween p = false := hon
      simp only [Moment.success?]
      split <;> simp_all
    | friends _ => rfl
  | insertAccount _ _ _ => rfl
  | deleteAccount _ => rfl

/-- The transitions between the accounts of a pair that succeeded, in order. -/
def successes (policy : Policy) (s : Store) (p : DirectedPair) (history : History) :
    List Transition :=
  (history.moments policy s).filterMap (Moment.success? p)

end History

/-- A block was lifted. Under a policy that forbids to lift none, a block came before; under another
one it may be that there was none to lift. -/
def Lifted (policy : Policy) (done : List Transition) : Prop :=
  ∃ earlier t later, done = earlier ++ t :: later ∧ t.action = .unblockFriend ∧
    (policy.strictUnblock = true → ∃ u ∈ earlier, u.action = .blockFriend)

/-- What has been done if two accounts stand in some way and were strangers once. -/
def Grounds (policy : Policy) (done : List Transition) (p : DirectedPair) : Standing → Prop
  | .strangers => True
  | .asking => ∃ t ∈ done, t.actor = p.first
  | .asked => ∃ t ∈ done, t.actor = p.second
  | .friends =>
    ((∃ t ∈ done, t.actor = p.first) ∧ ∃ t ∈ done, t.actor = p.second) ∨ Lifted policy done
  | .blocked => ∃ t ∈ done, t.action = .blockFriend

theorem Lifted.append {policy : Policy} {done : List Transition} (h : Lifted policy done)
    (more : List Transition) : Lifted policy (done ++ more) := by
  obtain ⟨earlier, t, later, rfl, ht, hblock⟩ := h
  exact ⟨earlier, t, later ++ more, by simp, ht, hblock⟩

namespace Grounds

variable {policy : Policy} {done : List Transition} {p : DirectedPair} {x y : Standing}

/-- What has been done stays done. -/
theorem append (h : Grounds policy done p x) (more : List Transition) :
    Grounds policy (done ++ more) p x := by
  have hmem : ∀ {P : Transition → Prop}, (∃ t ∈ done, P t) → ∃ t ∈ done ++ more, P t :=
    fun ⟨t, ht, hP⟩ => ⟨t, List.mem_append_left more ht, hP⟩
  cases x with
  | strangers => trivial
  | asking => exact hmem h
  | asked => exact hmem h
  | friends => exact h.imp (fun ⟨h₁, h₂⟩ => ⟨hmem h₁, hmem h₂⟩) fun hl => hl.append more
  | blocked => exact hmem h

theorem reversed (h : Grounds policy done p x) : Grounds policy done p.reversed x.reversed := by
  cases x with
  | friends => exact h.imp And.symm id
  | strangers => trivial
  | asking => exact h
  | asked => exact h
  | blocked => exact h

/-- A transition that succeeds gives the grounds for where it leads. -/
theorem transition {t : Transition} (h : Grounds policy done t.pair x)
    (hxy : Standing.Moves policy t.action x y) : Grounds policy (done ++ [t]) t.pair y := by
  obtain ⟨action, actor, other⟩ := t
  have hmem : (⟨action, actor, other⟩ : Transition) ∈ done ++ [⟨action, actor, other⟩] := by simp
  cases hxy with
  | ask => exact ⟨_, hmem, rfl⟩
  | askAgain _ => exact h.append _
  | accept => exact Or.inl ⟨h.append _, _, hmem, rfl⟩
  | acceptNothing _ _ => exact h.append _
  | reject => trivial
  | remove _ => trivial
  | block => exact ⟨_, hmem, rfl⟩
  | unblock _ tolerated =>
    refine Or.inr ⟨done, _, [], rfl, rfl, fun hstrict => ?_⟩
    obtain rfl := tolerated hstrict
    exact h

end Grounds

namespace History

variable {policy : Policy} {s : Store} {p : DirectedPair} {x : Standing} {done : List Transition}

theorem successes_cons (policy : Policy) (s : Store) (p : DirectedPair) (now : Instant)
    (step : Service.Step) (rest : History) :
    successes policy s p ((now, step) :: rest) =
      (Moment.success? p ⟨now, step, s, (step.carryOut policy now s).1,
        (step.carryOut policy now s).2⟩).toList ++
        successes policy (step.carryOut policy now s).2 p rest := by
  simp only [successes, moments_cons, List.filterMap_cons]
  split <;> simp_all

/-- A transition leaves the grounds for how its accounts stand. -/
theorem grounds_perform {t : Transition} (hs : s.Coherent) (hx : s.Stands t.pair x)
    (hg : Grounds policy done t.pair x) (now : Instant) :
    ∃ y, (Service.perform (.memory now) policy s t).2.Stands t.pair y ∧
      Grounds policy
        (done ++ match (Service.perform (.memory now) policy s t).1.value with
          | .ok _ => [t]
          | .error _ => []) t.pair y := by
  rw [Service.perform_of_stands hs.inUse hx]
  cases hy : x.after policy s.isLive t with
  | error e => exact ⟨x, hx, by simpa using hg⟩
  | ok y =>
    have hmoves := Standing.moves_of_next (Standing.next_of_after hy)
    exact ⟨y, Store.stands_writeAll hx hy now, hg.transition hmoves⟩

/-- A step leaves the grounds for how two accounts stand. -/
theorem grounds_carryOut (hs : s.Coherent) (hx : s.Stands p x) (hg : Grounds policy done p x)
    (now : Instant) (step : Service.Step) :
    ∃ y, (step.carryOut policy now s).2.Stands p y ∧
      Grounds policy
        (done ++ ((Moment.of policy now s step).success? p).toList) p y := by
  cases hon : step.isOn p with
  | false => exact ⟨x, Service.Step.stands_carryOut hon hx policy now, hg.append _⟩
  | true =>
    obtain ⟨t, rfl, ht⟩ := Service.Step.isOn_iff.1 hon
    have hdone : ((Moment.of policy now s (.call (.transition t))).success? p).toList =
        match (Service.perform (.memory now) policy s t).1.value with
          | .ok _ => [t]
          | .error _ => [] := by
      rw [Moment.success?_of ht]
      cases (Service.perform (.memory now) policy s t).1.value <;> rfl
    rw [hdone]
    rcases Transition.eq_pair_or_eq_reversed ht with rfl | rfl
    · exact grounds_perform hs hx hg now
    · obtain ⟨y, hy, hgy⟩ := grounds_perform hs hx.reversed hg.reversed now
      exact ⟨y.reversed, hy.reversed, hgy.reversed⟩

/-- From the grounds there are for how two accounts stand, a history leaves those for how they
stand in the end. -/
theorem grounds_store (hs : s.Coherent) (hx : s.Stands p x) (hg : Grounds policy done p x)
    (history : History) :
    ∃ y, (history.store policy s).Stands p y ∧
      Grounds policy (done ++ history.successes policy s p) p y := by
  induction history generalizing s x done with
  | nil => exact ⟨x, hx, hg.append _⟩
  | cons first rest ih =>
    obtain ⟨now, step⟩ := first
    obtain ⟨y, hy, hgy⟩ := grounds_carryOut hs hx hg now step
    rw [store_cons, successes_cons, ← List.append_assoc]
    exact ih (hs.carryOut policy now step) hy hgy

/-- Whenever two accounts are friends, then of the transitions between them that succeeded since any
time that they were strangers each has made one, or one of these transitions lifted a block; under a
policy that forbids to lift none, a block came before it. So where all were made by one account, one
of them lifted a block. -/
theorem friends_grounds (policy : Policy) (before since : History) (a b : AccountId)
    (hstrangers : (before.store policy .empty).Stands ⟨a, b⟩ .strangers)
    (hfriends : (since.store policy (before.store policy .empty)).Stands ⟨a, b⟩ .friends) :
    let done := since.successes policy (before.store policy .empty) ⟨a, b⟩
    (((∃ t ∈ done, t.actor = a) ∧ ∃ t ∈ done, t.actor = b) ∨ Lifted policy done) ∧
      ∀ c, (∀ t ∈ done, t.actor = c) → Lifted policy done := by
  intro done
  have hs : (before.store policy .empty).Coherent :=
    (Store.Reachable.empty.after before).coherent
  have hs' : (since.store policy (before.store policy .empty)).Coherent :=
    ((Store.Reachable.empty.after before).after since).coherent
  have hnone : Grounds policy [] ⟨a, b⟩ .strangers := trivial
  obtain ⟨y, hy, hgrounds⟩ := grounds_store hs hstrangers hnone since
  obtain rfl : y = .friends := hy.unique hfriends
  have hgrounds : Grounds policy done ⟨a, b⟩ .friends := hgrounds
  refine ⟨hgrounds, fun c hc => ?_⟩
  rcases hgrounds with ⟨⟨t, ht, hta⟩, u, hu, hub⟩ | hlifted
  · exfalso
    have hab : a = b := hta.symm.trans ((hc t ht).trans ((hc u hu).symm.trans hub))
    have hrow : (since.store policy (before.store policy .empty)).status? ⟨a, b⟩ =
        some .accepted := hfriends.forward
    have hnone := hs'.irreflexive ⟨a, b⟩ hab
    simp [Store.status?, hnone] at hrow
  · exact hlifted

end History

namespace Sample

/-- Alice and Bob join. -/
def joining : History :=
  [(.ofSecond 0, .insertAccount alice "alice" 1),
    (.ofSecond 1, .insertAccount bob "bob" 2)]

/-- Alice blocks Bob and lifts the block; Bob does nothing. -/
def unasked : History :=
  [(.ofSecond 2, .call (.transition ⟨.blockFriend, alice, bob⟩)),
    (.ofSecond 3, .call (.transition ⟨.unblockFriend, alice, bob⟩))]

/-- The policy that tolerates nothing. -/
def strict : Policy := ⟨true, true, false⟩

end Sample

namespace History

theorem friends_grounds_unasked :
    (Sample.joining.store Sample.strict .empty).Stands ⟨Sample.alice, Sample.bob⟩ .strangers ∧
    (Sample.unasked.store Sample.strict (Sample.joining.store Sample.strict .empty)).Stands
      ⟨Sample.alice, Sample.bob⟩ .friends ∧
    Lifted Sample.strict (Sample.unasked.successes Sample.strict
      (Sample.joining.store Sample.strict .empty) ⟨Sample.alice, Sample.bob⟩) := by
  have hstrangers : (Sample.joining.store Sample.strict .empty).Stands
      ⟨Sample.alice, Sample.bob⟩ .strangers := by
    unfold Store.Stands
    decide +kernel
  have hfriends : (Sample.unasked.store Sample.strict
      (Sample.joining.store Sample.strict .empty)).Stands ⟨Sample.alice, Sample.bob⟩ .friends := by
    unfold Store.Stands
    decide +kernel
  refine ⟨hstrangers, hfriends, ?_⟩
  have hactors : ∀ t ∈ Sample.unasked.successes Sample.strict
      (Sample.joining.store Sample.strict .empty) ⟨Sample.alice, Sample.bob⟩,
      t.actor = Sample.alice := by decide +kernel
  exact (friends_grounds Sample.strict Sample.joining Sample.unasked Sample.alice Sample.bob
    hstrangers hfriends).2 Sample.alice hactors

/-- Two accounts become friends without both having acted, even under the policy that tolerates
nothing: since Alice and Bob were strangers for the last time, only she has. -/
theorem friends_of_one_account :
    let s := Sample.joining.store Sample.strict .empty
    let done := Sample.unasked.successes Sample.strict s ⟨Sample.alice, Sample.bob⟩
    s.Stands ⟨Sample.alice, Sample.bob⟩ .strangers ∧
    (∀ m ∈ Sample.unasked.moments Sample.strict s,
      ¬ m.after.Stands ⟨Sample.alice, Sample.bob⟩ .strangers) ∧
    (Sample.unasked.store Sample.strict s).Stands ⟨Sample.alice, Sample.bob⟩ .friends ∧
    (∀ t ∈ done, t.actor = Sample.alice) ∧
    ¬ ((∃ t ∈ done, t.actor = Sample.alice) ∧ ∃ t ∈ done, t.actor = Sample.bob) := by
  unfold Store.Stands
  decide +kernel

/-- Where it is tolerated to lift a block that is not there, that makes friends of those whom one
account has only asked. -/
example : ((Sample.request ++ [(.ofSecond 3, .call (.transition
    ⟨.unblockFriend, Sample.alice, Sample.bob⟩))] : History).store {} .empty).Stands
    ⟨Sample.alice, Sample.bob⟩ .friends := by
  unfold Store.Stands
  decide +kernel

end History
end Friendship
