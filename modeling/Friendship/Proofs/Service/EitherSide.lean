import Friendship.Proofs.Relation.Moves
import Friendship.Proofs.Service.Steps

/-!
# Either side may act

To remove, to block and to unblock are actions that either of two accounts may take towards the
other, and it does not matter which one does: `Moves.reversed`. Where one of them would be refused
so would the other one, for the same reason: `SameRefusal`, `after_swapped`. In a store both come to
the same rows: `either_side`.
-/
namespace Friendship

/-- The action is the same whichever of two accounts takes it, unlike requests and their answers. -/
def Action.isMutual : Action → Bool
  | removeFriend | blockFriend | unblockFriend => true
  | addFriend | acceptFriend | rejectFriend => false

namespace Transition

variable {t : Transition}

/-- The other account takes the action. -/
def swapped (t : Transition) : Transition := ⟨t.action, t.other, t.actor⟩

/-- A mutual action is planned on the pair of who acts and the other one. -/
theorem pair_of_isMutual (h : t.action.isMutual = true) : t.pair = ⟨t.actor, t.other⟩ := by
  obtain ⟨action, actor, other⟩ := t
  cases action with
  | addFriend | acceptFriend | rejectFriend => cases h
  | removeFriend | blockFriend | unblockFriend => rfl

theorem pair_swapped (h : t.action.isMutual = true) : t.swapped.pair = t.pair.reversed := by
  have h' : t.swapped.action.isMutual = true := h
  rw [pair_of_isMutual h', pair_of_isMutual h]
  rfl

@[simp] theorem isBetween_swapped (t : Transition) (p : DirectedPair) :
    t.swapped.isBetween p = t.isBetween p := by
  rw [Bool.eq_iff_iff]
  simp only [isBetween, Bool.or_eq_true, Bool.and_eq_true, decide_eq_true_eq]
  exact or_comm.trans (or_congr and_comm and_comm)

end Transition

namespace Standing

variable {policy : Policy} {live : AccountId → Bool} {t : Transition} {x y : Standing}

@[simp] theorem reversed_eq_strangers_iff : x.reversed = strangers ↔ x = strangers := by
  cases x <;> decide

@[simp] theorem reversed_eq_blocked_iff : x.reversed = blocked ↔ x = blocked := by
  cases x <;> decide

@[simp] theorem status?_reversed (x : Standing) : x.reversed.status? = x.status? := by
  cases x <;> rfl

theorem renews_reversed {action : Action} (h : action.isMutual = true) (x : Standing) :
    renews action x.reversed = renews action x := by
  cases action with
  | addFriend | acceptFriend | rejectFriend => cases h
  | removeFriend | blockFriend => rfl
  | unblockFriend => simp [renews]

/-- A mutual action leads to the same standing from either side, and to one that is the same from
either side. -/
theorem Moves.reversed {action : Action} (h : Moves policy action x y)
    (hmutual : action.isMutual = true) : Moves policy action x.reversed y ∧ y.reversed = y := by
  cases h with
  | remove hx => exact ⟨.remove (mt reversed_eq_strangers_iff.1 hx), rfl⟩
  | block => exact ⟨.block, rfl⟩
  | unblock hx tolerated =>
    exact ⟨.unblock (mt reversed_eq_strangers_iff.1 hx) fun hs => by rw [tolerated hs]; rfl, rfl⟩
  | ask | askAgain | accept | acceptNothing | reject => cases hmutual

/-- How the refusals of a mutual action correspond, of the one account and of the other. -/
inductive SameRefusal (live : AccountId → Bool) (x : Standing) (t : Transition) :
    RelationError → RelationError → Prop
  /-- There is nothing to remove or to unblock, and each is told of the other one. -/
  | strangers (hx : x = strangers) (h : t.action ≠ .blockFriend) :
    SameRefusal live x t (.userNotFound t.other) (.userNotFound t.actor)
  /-- There is no block to lift. -/
  | notBlocked (hx : x ≠ strangers) (h : t.action = .unblockFriend) :
    SameRefusal live x t (.invalidState .blocked x.status?) (.invalidState .blocked x.status?)
  /-- One of the two alone is not live, and both are told of it. -/
  | oneGone {id : AccountId} (h : t.action = .blockFriend ∨ x ≠ strangers)
    (hid : id = t.actor ∨ id = t.other) (hgone : live id = false)
    (hone : live t.actor ≠ live t.other) :
    SameRefusal live x t (.userNotFound id) (.userNotFound id)
  /-- Neither is live, and each is told of itself. -/
  | bothGone (h : t.action = .blockFriend ∨ x ≠ strangers) (hactor : live t.actor = false)
    (hother : live t.other = false) :
    SameRefusal live x t (.userNotFound t.actor) (.userNotFound t.other)

/-- What refuses a mutual action before any account is looked for, refuses it from either side. -/
theorem sameRefusal_of_next (live : AccountId → Bool) {e : RelationError}
    (hmutual : t.action.isMutual = true) (h : x.next policy t = .error e) :
    ∃ e', x.reversed.next policy t.swapped = .error e' ∧ SameRefusal live x t e e' := by
  obtain ⟨action, actor, other⟩ := t
  cases action with
  | addFriend | acceptFriend | rejectFriend => cases hmutual
  | blockFriend => cases h
  | removeFriend =>
    by_cases hx : x = strangers
    · obtain rfl : .userNotFound other = e := by simpa [next, hx] using h
      exact ⟨.userNotFound actor, by simp [next, Transition.swapped, hx], .strangers hx (by simp)⟩
    · simp [next, hx] at h
  | unblockFriend =>
    by_cases hx : x = strangers
    · obtain rfl : .userNotFound other = e := by simpa [next, hx] using h
      exact ⟨.userNotFound actor, by simp [next, Transition.swapped, hx], .strangers hx (by simp)⟩
    by_cases hstrict : policy.strictUnblock = true ∧ x ≠ blocked
    · obtain rfl : .invalidState .blocked x.status? = e := by simpa [next, hx, hstrict] using h
      exact ⟨.invalidState .blocked x.status?, by simp [next, Transition.swapped, hx, hstrict],
        .notBlocked hx rfl⟩
    · simp [next, hx, hstrict] at h

/-- Where a row is to be put, either side is refused for want of an account, if one is not live. -/
theorem sameRefusal_of_gone (h : t.action = .blockFriend ∨ x ≠ strangers)
    (hgone : ¬ (live t.actor = true ∧ live t.other = true)) :
    ∃ id id', [t.actor, t.other].find? (fun id => !live id) = some id ∧
      [t.other, t.actor].find? (fun id => !live id) = some id' ∧
      SameRefusal live x t (.userNotFound id) (.userNotFound id') := by
  cases hactor : live t.actor with
  | true =>
    cases hother : live t.other with
    | true => exact absurd ⟨hactor, hother⟩ hgone
    | false =>
      refine ⟨t.other, t.other, by simp [hactor, hother], by simp [hother], ?_⟩
      exact .oneGone h (Or.inr rfl) hother (by simp [hactor, hother])
  | false =>
    cases hother : live t.other with
    | true =>
      refine ⟨t.actor, t.actor, by simp [hactor], by simp [hactor, hother], ?_⟩
      exact .oneGone h (Or.inl rfl) hactor (by simp [hactor, hother])
    | false =>
      exact ⟨t.actor, t.other, by simp [hactor], by simp [hother], .bothGone h hactor hother⟩

/-- Only what has rows is unblocked. -/
theorem eq_blockFriend_or_ne_strangers (hmutual : t.action.isMutual = true)
    (hnew : renews t.action x = true) : t.action = .blockFriend ∨ x ≠ strangers := by
  obtain ⟨action, actor, other⟩ := t
  cases action with
  | addFriend | acceptFriend | rejectFriend => cases hmutual
  | removeFriend => cases hnew
  | blockFriend => exact Or.inl rfl
  | unblockFriend => exact Or.inr (of_decide_eq_true hnew)

/-- A mutual action comes to the same from either side. -/
theorem after_swapped (hmutual : t.action.isMutual = true) (hne : t.actor ≠ t.other)
    (policy : Policy) (live : AccountId → Bool) (x : Standing) :
    (∃ y, y.reversed = y ∧ x.after policy live t = .ok y ∧
      x.reversed.after policy live t.swapped = .ok y) ∨
    ∃ e e', x.after policy live t = .error e ∧
      x.reversed.after policy live t.swapped = .error e' ∧ SameRefusal live x t e e' := by
  have hne' : t.swapped.actor ≠ t.swapped.other := Ne.symm hne
  have hmutual' : t.swapped.action.isMutual = true := hmutual
  rw [after_distinct hne, after_distinct hne', Transition.pair_of_isMutual hmutual,
    Transition.pair_of_isMutual hmutual']
  have hrenews : renews t.swapped.action x.reversed = renews t.action x :=
    renews_reversed hmutual x
  rw [hrenews]
  cases hnext : x.next policy t with
  | error e =>
    obtain ⟨e', hnext', hsame⟩ := sameRefusal_of_next live hmutual hnext
    rw [hnext']
    exact Or.inr ⟨e, e', rfl, rfl, hsame⟩
  | ok y =>
    obtain ⟨hmoves, hy⟩ := (moves_of_next hnext).reversed hmutual
    rw [next_of_moves (t := t.swapped) hmoves]
    simp only [Except.bind]
    cases hnew : renews t.action x with
    | false => exact Or.inl ⟨y, hy, rfl, rfl⟩
    | true =>
      simp only [if_true]
      by_cases hlive : live t.actor = true ∧ live t.other = true
      · refine Or.inl ⟨y, hy, ?_, ?_⟩ <;> simp [Transition.swapped, hlive]
      · obtain ⟨id, id', hid, hid', hsame⟩ :=
          sameRefusal_of_gone (eq_blockFriend_or_ne_strangers hmutual hnew) hlive
        have hid' : [t.swapped.actor, t.swapped.other].find? (fun id => !live id) = some id' := hid'
        rw [hid, hid']
        exact Or.inr ⟨_, _, rfl, rfl, hsame⟩

end Standing

namespace Service

variable {s : Store} {t : Transition} {x y : Standing} {policy : Policy}

/-- Where a mutual action is taken, it leaves the same statuses from either side. -/
theorem status?_perform_swapped (hs : s.Coherent) (hmutual : t.action.isMutual = true)
    (hx : s.Stands t.pair x) (hy : x.after policy s.isLive t = .ok y)
    (hy' : x.reversed.after policy s.isLive t.swapped = .ok y) (hsame : y.reversed = y)
    (now now' : Instant) (p : DirectedPair) :
    (perform (.memory now) policy s t).2.status? p =
      (perform (.memory now') policy s t.swapped).2.status? p := by
  have hpair := Transition.pair_swapped hmutual
  have hx' : s.Stands t.swapped.pair x.reversed := hpair ▸ hx.reversed
  cases hp : t.isBetween p with
  | false =>
    have hp' : t.swapped.isBetween p = false := (Transition.isBetween_swapped t p).trans hp
    rw [status?_perform hp, status?_perform hp']
  | true =>
    have hleft : (s.writeAll now (x.writes t y)).Stands t.pair y := Store.stands_writeAll hx hy now
    have hleft' : (s.writeAll now' (x.reversed.writes t.swapped y)).Stands t.pair y := by
      have hreversed := (Store.stands_writeAll hx' hy' now').reversed
      rwa [hsame, hpair, DirectedPair.reversed_reversed] at hreversed
    rw [perform_of_stands hs.inUse hx, perform_of_stands hs.inUse hx', hy, hy']
    rcases Transition.eq_pair_or_eq_reversed hp with rfl | rfl
    · exact hleft.forward.trans hleft'.forward.symm
    · exact hleft.backward.trans hleft'.backward.symm

/-- Between two accounts it does not matter which of them removes, blocks or unblocks the other one.
Either both are told that all is well, or both are refused for the same reason; and the rows have
the same statuses afterwards. -/
theorem either_side {past : Policy} (h : s.Reachable past) (policy : Policy) (now now' : Instant)
    {action : Action} (hmutual : action.isMutual = true) {a b : AccountId} (hab : a ≠ b) :
    let mine := perform (.memory now) policy s ⟨action, a, b⟩
    let theirs := perform (.memory now') policy s ⟨action, b, a⟩
    (∀ p, mine.2.status? p = theirs.2.status? p) ∧
      ∃ x, s.Stands ⟨a, b⟩ x ∧
        (mine.1.value = .ok () ∧ theirs.1.value = .ok () ∨
          ∃ e e', mine.1.value = .error e ∧ theirs.1.value = .error e' ∧
            Standing.SameRefusal s.isLive x ⟨action, a, b⟩ e e') := by
  intro mine theirs
  have hs := h.coherent
  have hpair := Transition.pair_of_isMutual (t := ⟨action, a, b⟩) hmutual
  obtain ⟨x, hx⟩ := hs.exists_stands (Transition.pair ⟨action, a, b⟩)
  have hx' : s.Stands (Transition.pair ⟨action, b, a⟩) x.reversed :=
    Transition.pair_swapped (t := ⟨action, a, b⟩) hmutual ▸ hx.reversed
  have hmine : perform (.memory now) policy s ⟨action, a, b⟩ = _ :=
    perform_of_stands hs.inUse hx now policy
  have htheirs : perform (.memory now') policy s ⟨action, b, a⟩ = _ :=
    perform_of_stands hs.inUse hx' now' policy
  rcases Standing.after_swapped (t := ⟨action, a, b⟩) hmutual hab policy s.isLive x with
    ⟨y, hsame, hy, hy'⟩ | ⟨e, e', he, he', hrefused⟩
  · refine ⟨status?_perform_swapped hs hmutual hx hy hy' hsame now now', x, hpair ▸ hx,
      Or.inl ⟨?_, ?_⟩⟩
    · simp only [mine, hmine, hy]
    · have hy' : x.reversed.after policy s.isLive ⟨action, b, a⟩ = .ok y := hy'
      simp only [theirs, htheirs, hy']
  · have he' : x.reversed.after policy s.isLive ⟨action, b, a⟩ = .error e' := he'
    refine ⟨fun p => ?_, x, hpair ▸ hx, Or.inr ⟨e, e', ?_, ?_, hrefused⟩⟩
    · simp only [mine, theirs, hmine, htheirs, he, he']
    · simp only [mine, hmine, he]
    · simp only [theirs, htheirs, he']

/-- A request stands between two accounts. Either of them may block the other one, and under a
strict policy neither may unblock it. -/
theorem either_side_request :
    let s := Sample.request.store {} .empty
    let strict : Policy := { strictUnblock := true }
    s.Reachable {} ∧ Action.blockFriend.isMutual = true ∧ Action.unblockFriend.isMutual = true ∧
    Sample.alice ≠ Sample.bob ∧ s.Stands ⟨Sample.alice, Sample.bob⟩ .asking ∧
    (let mine := perform (.memory (.ofSecond 3)) {} s ⟨.blockFriend, Sample.alice, Sample.bob⟩
      let theirs := perform (.memory (.ofSecond 4)) {} s ⟨.blockFriend, Sample.bob, Sample.alice⟩
      (∀ p, mine.2.status? p = theirs.2.status? p) ∧
        mine.1.value = .ok () ∧ theirs.1.value = .ok ()) ∧
    let mine := perform (.memory (.ofSecond 3)) strict s ⟨.unblockFriend, Sample.alice, Sample.bob⟩
    let theirs :=
      perform (.memory (.ofSecond 4)) strict s ⟨.unblockFriend, Sample.bob, Sample.alice⟩
    mine.1.value = .error (.invalidState .blocked (some .pending)) ∧
      theirs.1.value = .error (.invalidState .blocked (some .pending)) := by
  intro s strict
  have h : s.Reachable {} := Store.Reachable.empty.after _
  have hblock : Action.blockFriend.isMutual = true := rfl
  have hunblock : Action.unblockFriend.isMutual = true := rfl
  have hne : Sample.alice ≠ Sample.bob := by decide
  have hasking : s.Stands ⟨Sample.alice, Sample.bob⟩ .asking := by
    unfold Store.Stands
    decide +kernel
  refine ⟨h, hblock, hunblock, hne, hasking, ?_, ?_⟩
  · intro mine theirs
    obtain ⟨hsame, x, -, hanswers⟩ :=
      either_side h {} (.ofSecond 3) (.ofSecond 4) hblock hne
    refine ⟨hsame, ?_⟩
    rcases hanswers with hdone | ⟨e, e', he, -⟩
    · exact hdone
    · cases he
  · intro mine theirs
    obtain ⟨-, x, hx, hanswers⟩ :=
      either_side h strict (.ofSecond 3) (.ofSecond 4) hunblock hne
    obtain rfl := hx.unique hasking
    rcases hanswers with ⟨hdone, -⟩ | ⟨e, e', he, he', hrefused⟩
    · cases hdone
    · cases hrefused with
      | notBlocked => exact ⟨he, he'⟩
      | strangers hx => cases hx
      | oneGone => cases he
      | bothGone => cases he

end Service
end Friendship
