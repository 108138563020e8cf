import Friendship.Proofs.Service.Consent

/-!
# The first request wins

A request between accounts that have a row already succeeds and leaves the store as it is, whoever
of them asks and whether they are live or not: `perform_add_of_related`. So of all requests between
two accounts the first one makes the row, and the later ones, be they of the same account or of the
other one, neither fail nor touch it: `first_request_wins`.
-/
namespace Friendship

namespace Store

variable {s : Store} {p : DirectedPair} {since : Instant}

/-- Two live accounts have no row with each other. -/
structure Unrelated (s : Store) (p : DirectedPair) : Prop where
  first : s.isLive p.first = true
  second : s.isLive p.second = true
  strangers : (s.snapshot p).isEmpty = true

/-- The first account has asked the second, and there is no row the other way. -/
structure Requested (s : Store) (p : DirectedPair) (since : Instant) : Prop where
  made : s.rows.get? p = some ⟨.pending, since⟩
  alone : s.rows.get? p.reversed = none

theorem Requested.related (h : s.Requested p since) : (s.snapshot p).isEmpty = false := by
  simp [snapshot, h.made, Snapshot.isEmpty]

theorem snapshot_reversed_isEmpty (s : Store) (p : DirectedPair) :
    (s.snapshot p.reversed).isEmpty = (s.snapshot p).isEmpty := by
  simp [snapshot, Snapshot.isEmpty, Bool.and_comm]

end Store

namespace Service

variable {s : Store} {a b : AccountId} {p : DirectedPair} {since : Instant}

/-- Who asks an account that it has a row with is told that all is well, and nothing changes. -/
theorem perform_add_of_related (hs : s.Coherent) (hrows : (s.snapshot ⟨a, b⟩).isEmpty = false)
    (now : Instant) (policy : Policy) :
    perform (.memory now) policy s ⟨.addFriend, a, b⟩ =
      (⟨.ok (), transitionLog ⟨.addFriend, a, b⟩ (.ok 0)⟩, s) := by
  obtain ⟨x, hx, hne, hab⟩ := hs.exists_related hrows
  have hafter : x.after policy s.isLive ⟨.addFriend, a, b⟩ = .ok x := by
    rw [Standing.after_distinct hab]
    simp [Standing.next, Standing.renews, hne, Except.bind]
  have hwrites : x.writes ⟨.addFriend, a, b⟩ x = [] := by
    simp [Standing.writes, Standing.renews, hne]
  rw [perform_of_stands (t := ⟨.addFriend, a, b⟩) hs.inUse hx, hafter]
  simp only [hwrites, List.length_nil, Store.writeAll_nil]

/-- A request between live accounts that have no row makes it. -/
theorem perform_add_of_strangers (hs : s.Coherent) (hab : a ≠ b) (h : s.Unrelated ⟨a, b⟩)
    (now : Instant) (policy : Policy) :
    (perform (.memory now) policy s ⟨.addFriend, a, b⟩).1.value = .ok () ∧
      (perform (.memory now) policy s ⟨.addFriend, a, b⟩).2.Requested ⟨a, b⟩ now := by
  have hx : s.Stands ⟨a, b⟩ .strangers := Store.stands_strangers_iff.2 h.strangers
  have hafter : Standing.strangers.after policy s.isLive ⟨.addFriend, a, b⟩ = .ok .asking := by
    rw [Standing.after_distinct hab]
    have hfirst : s.isLive a = true := h.first
    have hsecond : s.isLive b = true := h.second
    simp [Standing.next, Standing.renews, Transition.pair, hfirst, hsecond, Except.bind]
  have hstands := Store.stands_writeAll hx hafter now
  rw [perform_of_stands (t := ⟨.addFriend, a, b⟩) hs.inUse hx, hafter]
  refine ⟨rfl, ?_, Option.map_eq_none_iff.1 hstands.backward⟩
  change (s.writeAll now [.put ⟨a, b⟩ .pending]).rows.get? ⟨a, b⟩ = some ⟨.pending, now⟩
  simp [Store.get?_writeAll, Write.last?_cons, Write.row, Write.stored]

namespace Step

/-- If the step is a transition between the two accounts of the pair, then one of them asks the
other. -/
def onlyAsks (p : DirectedPair) : Step → Bool
  | .call (.transition t) => t.isBetween p → t.action = .addFriend
  | .call (.friends _) | .insertAccount .. | .deleteAccount _ => true

end Step

end Service

namespace Store

variable {s : Store} {p : DirectedPair} {since : Instant} {step : Service.Step}

/-- What is not between two accounts and takes neither of them away leaves them as they are. -/
theorem Unrelated.carryOut (h : s.Unrelated p) (hon : step.isOn p = false)
    (hfirst : step ≠ .deleteAccount p.first) (hsecond : step ≠ .deleteAccount p.second)
    (policy : Policy) (now : Instant) : (step.carryOut policy now s).2.Unrelated p where
  first := Service.Step.isLive_of_ne_deleteAccount h.first hfirst policy now
  second := Service.Step.isLive_of_ne_deleteAccount h.second hsecond policy now
  strangers := by
    rw [Service.Step.snapshot_carryOut hon]
    exact h.strangers

/-- Once there is a request, further ones succeed and leave it as it is, and so does all that is
not between the two accounts. -/
theorem Requested.carryOut (hs : s.Coherent) (h : s.Requested p since)
    (hasks : step.onlyAsks p = true) (policy : Policy) (now : Instant) :
    (step.isOn p = true → (step.carryOut policy now s).1.value = .ok []) ∧
      (step.carryOut policy now s).2.Requested p since := by
  cases hon : step.isOn p with
  | false =>
    have hon' : step.isOn p.reversed = false := (Service.Step.isOn_reversed p step).trans hon
    refine ⟨nofun, ?_, ?_⟩
    · rw [Service.Step.get?_carryOut hon]
      exact h.made
    · rw [Service.Step.get?_carryOut hon']
      exact h.alone
  | true =>
    obtain ⟨⟨action, actor, other⟩, rfl, ht⟩ := Service.Step.isOn_iff.1 hon
    obtain rfl : action = .addFriend := of_decide_eq_true hasks ht
    have hrows : (s.snapshot ⟨actor, other⟩).isEmpty = false := by
      rcases Transition.eq_pair_or_eq_reversed ht with rfl | rfl
      · exact h.related
      · exact (snapshot_reversed_isEmpty s ⟨actor, other⟩).symm.trans h.related
    rw [Service.Step.carryOut_transition, Service.perform_add_of_related hs hrows]
    exact ⟨fun _ => rfl, h⟩

end Store

namespace History

variable {s : Store} {p : DirectedPair} {since : Instant}

theorem requested_store (hs : s.Coherent) (h : s.Requested p since) (policy : Policy)
    (history : History) (hasks : ∀ e ∈ history, e.2.onlyAsks p = true) :
    (∀ m ∈ history.moments policy s, m.step.isOn p = true → m.answer.value = .ok []) ∧
      (history.store policy s).Requested p since := by
  induction history generalizing s with
  | nil => exact ⟨by simp, h⟩
  | cons first rest ih =>
    obtain ⟨now, step⟩ := first
    obtain ⟨hstep, hrest⟩ := List.forall_mem_cons.1 hasks
    obtain ⟨hanswer, hnext⟩ := h.carryOut hs hstep policy now
    obtain ⟨hanswers, hstore⟩ := ih (hs.carryOut policy now step) hnext hrest
    exact ⟨List.forall_mem_cons.2 ⟨hanswer, hanswers⟩, hstore⟩

theorem unrelated_store (h : s.Unrelated p) (policy : Policy) (history : History)
    (hbeside : ∀ e ∈ history, e.2.isOn p = false ∧ e.2 ≠ .deleteAccount p.first ∧
      e.2 ≠ .deleteAccount p.second) :
    (∀ m ∈ history.moments policy s, m.step.isOn p = false) ∧
      (history.store policy s).Unrelated p := by
  induction history generalizing s with
  | nil => exact ⟨by simp, h⟩
  | cons first rest ih =>
    obtain ⟨now, step⟩ := first
    obtain ⟨⟨hon, hfirst, hsecond⟩, hrest⟩ := List.forall_mem_cons.1 hbeside
    obtain ⟨hnone, hstore⟩ := ih (h.carryOut hon hfirst hsecond policy now) hrest
    exact ⟨List.forall_mem_cons.2 ⟨hon, hnone⟩, hstore⟩

/-- Of any requests between two live accounts without a row, in either direction and with anything
else but transitions between the two among them, all succeed, and what is left is the row of the
first one, which `a` has sent, with its time; only before it neither account may go. And a request
between accounts that have a row, live or not, succeeds and changes nothing. -/
theorem first_request_wins (past policy : Policy) :
    (∀ (s : Store) (a b : AccountId), s.Reachable past → a ≠ b → s.Unrelated ⟨a, b⟩ →
      ∀ (before : History) (now : Instant) (later : History),
        (∀ e ∈ before, e.2.isOn ⟨a, b⟩ = false ∧ e.2 ≠ .deleteAccount a ∧
          e.2 ≠ .deleteAccount b) →
        (∀ e ∈ later, e.2.onlyAsks ⟨a, b⟩ = true) →
        let history := before ++ (now, .call (.transition ⟨.addFriend, a, b⟩)) :: later
        (∀ m ∈ history.moments policy s, m.step.isOn ⟨a, b⟩ = true → m.answer.value = .ok []) ∧
          (history.store policy s).Requested ⟨a, b⟩ now) ∧
    ∀ (s : Store) (a b : AccountId), s.Reachable past → (s.snapshot ⟨a, b⟩).isEmpty = false →
      ∀ now, (Service.perform (.memory now) policy s ⟨.addFriend, a, b⟩).1.value = .ok () ∧
        (Service.perform (.memory now) policy s ⟨.addFriend, a, b⟩).2 = s := by
  constructor
  · intro s a b h hab hnone before now later hbefore hlater history
    obtain ⟨hbeside, hfree⟩ := unrelated_store hnone policy before hbefore
    have hs := h.coherent.store policy before
    obtain ⟨hmade, hrequested⟩ := Service.perform_add_of_strangers hs hab hfree now policy
    obtain ⟨hanswers, hleft⟩ := requested_store
      (hs.carryOut policy now (.call (.transition ⟨.addFriend, a, b⟩))) hrequested policy later
      hlater
    refine ⟨?_, ?_⟩
    · rw [moments_append, moments_cons]
      intro m hm hon
      rcases List.mem_append.1 hm with hm | hm
      · rw [hbeside m hm] at hon
        cases hon
      · rcases List.mem_cons.1 hm with rfl | hm
        · simp only [Service.Step.carryOut_transition, hmade]
          rfl
        · exact hanswers m hm hon
    · rw [store_append]
      exact hleft
  · intro s a b h hrows now
    rw [Service.perform_add_of_related h.coherent hrows]
    exact ⟨rfl, rfl⟩

end History

namespace Sample

/-- After Alice's request Bob asks her as well, then he is gone, and Alice asks again. -/
def crossing : History :=
  [(.ofSecond 4, .call (.transition ⟨.addFriend, bob, alice⟩)),
    (.ofSecond 5, .deleteAccount bob),
    (.ofSecond 6, .call (.transition ⟨.addFriend, alice, bob⟩))]

end Sample

namespace History

/-- Bob takes another name, and Alice is the first to ask; what they ask later changes nothing. -/
theorem first_request_wins_crossing :
    let s := Sample.joining.store {} .empty
    let before : History := [(.ofSecond 2, .insertAccount Sample.bob "robert" 2)]
    let left := (before ++ (.ofSecond 3, .call (.transition ⟨.addFriend, Sample.alice,
      Sample.bob⟩)) :: Sample.crossing : History).store {} s
    (s.Reachable {} ∧ Sample.alice ≠ Sample.bob ∧ s.Unrelated ⟨Sample.alice, Sample.bob⟩ ∧
      (∀ e ∈ before, e.2.isOn ⟨Sample.alice, Sample.bob⟩ = false ∧
        e.2 ≠ .deleteAccount Sample.alice ∧ e.2 ≠ .deleteAccount Sample.bob) ∧
      (∀ e ∈ Sample.crossing, e.2.onlyAsks ⟨Sample.alice, Sample.bob⟩ = true) ∧
      left.Requested ⟨Sample.alice, Sample.bob⟩ (.ofSecond 3)) ∧
    left.Reachable {} ∧ (left.snapshot ⟨Sample.bob, Sample.alice⟩).isEmpty = false ∧
      (Service.perform (.memory (.ofSecond 7)) {} left
        ⟨.addFriend, Sample.bob, Sample.alice⟩).2 = left := by
  intro s before left
  have h : s.Reachable {} := Store.Reachable.empty.after _
  have hne : Sample.alice ≠ Sample.bob := by decide
  have hnone : s.Unrelated ⟨Sample.alice, Sample.bob⟩ :=
    ⟨by decide +kernel, by decide +kernel, by decide +kernel⟩
  have hbefore : ∀ e ∈ before, e.2.isOn ⟨Sample.alice, Sample.bob⟩ = false ∧
      e.2 ≠ .deleteAccount Sample.alice ∧ e.2 ≠ .deleteAccount Sample.bob := by decide +kernel
  have hlater : ∀ e ∈ Sample.crossing, e.2.onlyAsks ⟨Sample.alice, Sample.bob⟩ = true := by
    decide +kernel
  obtain ⟨-, hleft⟩ := (first_request_wins {} {}).1 s Sample.alice Sample.bob h hne hnone before
    (.ofSecond 3) Sample.crossing hbefore hlater
  have hreachable : left.Reachable {} := h.after _
  have hrows : (left.snapshot ⟨Sample.bob, Sample.alice⟩).isEmpty = false := by decide +kernel
  have hsame := ((first_request_wins {} {}).2 left Sample.bob Sample.alice hreachable hrows
    (.ofSecond 7)).2
  exact ⟨⟨h, hne, hnone, hbefore, hlater, hleft⟩, hreachable, hrows, hsame⟩

end History
end Friendship
