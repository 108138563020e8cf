import Friendship.Proofs.Relation.Plans

/-!
# Transitions on a store

Where the rows of a pair tell of a standing, a transition between its accounts does what is said
of standings: `mutatePair_of_stands` gives the answer and the writes, `stands_writeAll` the next
standing, and `get?_writeAll_writes` that the rows of other pairs stay.
-/
namespace Friendship

namespace Standing

variable {policy : Policy} {live : AccountId → Bool} {t : Transition} {x y : Standing}

theorem after_self (h : t.actor = t.other) :
    x.after policy live t = .error (.invalidArgument (.selfRelation t.action t.actor)) := by
  simp [after, h, bind, Except.bind, throw, throwThe, MonadExceptOf.throw]

/-- Between two accounts a refusal of the next standing comes first, then the accounts that are
not live. -/
theorem after_distinct (h : t.actor ≠ t.other) :
    x.after policy live t =
      (x.next policy t).bind fun y =>
        match if renews t.action x then [t.pair.first, t.pair.second].find? fun id => !live id
          else none with
        | some id => .error (.userNotFound id)
        | none => .ok y := by
  simp only [after, h, if_false, bind, Except.bind, pure, Except.pure, throw, throwThe,
    MonadExceptOf.throw]
  cases x.next policy t with
  | error e => rfl
  | ok y =>
    by_cases hr : renews t.action x = true
    · simp only [hr, if_true]
      cases [t.pair.first, t.pair.second].find? fun id => !live id <;> rfl
    · simp [hr]

theorem distinct_of_after (h : x.after policy live t = .ok y) : t.actor ≠ t.other := by
  intro hself
  rw [after_self hself] at h
  cases h

theorem next_of_after (h : x.after policy live t = .ok y) : x.next policy t = .ok y := by
  rw [after_distinct (distinct_of_after h)] at h
  cases hn : x.next policy t with
  | error e => simp [hn, Except.bind] at h
  | ok z =>
    simp only [hn, Except.bind] at h
    split at h <;> cases h
    rfl

end Standing

namespace Store

variable {s : Store} {policy : Policy} {t : Transition} {x y : Standing}

/-- The rows of a pair tell how its first account stands with the second. -/
def Stands (s : Store) (p : DirectedPair) (x : Standing) : Prop := s.snapshot p = x.snapshot

theorem Stands.forward {p : DirectedPair} (h : s.Stands p x) :
    s.status? p = x.snapshot.forward := congrArg Snapshot.forward h

theorem Stands.backward {p : DirectedPair} (h : s.Stands p x) :
    s.status? p.reversed = x.snapshot.backward := congrArg Snapshot.backward h

theorem Stands.reversed {p : DirectedPair} (h : s.Stands p x) : s.Stands p.reversed x.reversed := by
  unfold Stands
  rw [snapshot_eq, DirectedPair.reversed_reversed, h.forward, h.backward]
  cases x <;> rfl

/-- Two accounts are strangers if they have no row. -/
theorem stands_strangers_iff {p : DirectedPair} :
    s.Stands p .strangers ↔ (s.snapshot p).isEmpty = true := by
  unfold Stands
  rcases s.snapshot p with ⟨_ | _, _ | _⟩ <;> simp [Standing.snapshot, Snapshot.isEmpty]

/-- Two rows tell of one standing only. -/
theorem Stands.unique {p : DirectedPair} (hx : s.Stands p x) (hy : s.Stands p y) : x = y := by
  have h : Standing.ofSnapshot? (s.snapshot p) = some x := Standing.ofSnapshot?_eq_some_iff.2 hx
  rw [Standing.ofSnapshot?_eq_some_iff.2 hy] at h
  exact (Option.some.inj h).symm

theorem Stands.snapshot_eq_iff {s' : Store} {p : DirectedPair} (hx : s.Stands p x)
    (hy : s'.Stands p y) : s.snapshot p = s'.snapshot p ↔ x = y := by
  constructor
  · intro hsame
    have hx' : s'.Stands p x := hsame.symm.trans hx
    exact hx'.unique hy
  · rintro rfl
    exact hx.trans hy.symm

/-- A transition of a store in use answers as the standing of its accounts says, and writes what
takes them to the next one. -/
theorem mutatePair_of_stands (hs : s.poisoned = false) (hx : s.Stands t.pair x) (now : Instant)
    (policy : Policy) :
    s.mutatePair now t.pair (t.plan policy) =
      match x.after policy s.isLive t with
      | .error e => (⟨some x.snapshot, .error e⟩, s)
      | .ok y =>
        (⟨some x.snapshot, .ok (x.writes t y).length⟩, s.writeAll now (x.writes t y)) := by
  have hsnap : s.snapshot t.pair = x.snapshot := hx
  by_cases hself : t.actor = t.other
  · rw [Standing.after_self hself]
    simp only [mutatePair, hs, Bool.false_eq_true, if_false, Transition.plan_self hself, hsnap]
  rw [Standing.after_distinct hself]
  simp only [mutatePair, hs, Bool.false_eq_true, if_false, hsnap,
    Standing.plan_snapshot hself policy x]
  cases hn : x.next policy t with
  | error e => rfl
  | ok y =>
    have hend : s.missingEnd? (x.writes t y) =
        if Standing.renews t.action x then
          [t.pair.first, t.pair.second].find? fun id => !s.isLive id
        else none :=
      Standing.find?_ends_writes (fun id => !s.isLive id) hn
    simp only [Except.map, Except.bind, apply]
    rw [← hend]
    cases s.missingEnd? (x.writes t y) <;> rfl

/-- After the writes of a transition its accounts stand as the transition says. -/
theorem stands_writeAll (hx : s.Stands t.pair x) (h : x.after policy s.isLive t = .ok y)
    (now : Instant) : (s.writeAll now (x.writes t y)).Stands t.pair y := by
  have hsnap : s.snapshot t.pair = x.snapshot := hx
  unfold Stands
  rw [snapshot_writeAll, hsnap]
  exact Standing.after_writes (Standing.distinct_of_after h) (Standing.next_of_after h)

/-- A transition leaves the rows of other pairs as they are. -/
theorem get?_writeAll_writes (h : x.after policy s.isLive t = .ok y) (now : Instant)
    {p : DirectedPair} (hp : p ≠ t.pair) (hp' : p ≠ t.pair.reversed) :
    (s.writeAll now (x.writes t y)).rows.get? p = s.rows.get? p := by
  have hplan : t.plan policy x.snapshot = .ok (x.writes t y) := by
    rw [Standing.plan_snapshot (Standing.distinct_of_after h), Standing.next_of_after h]
    rfl
  refine get?_writeAll_of_ne fun w hw e => ?_
  rcases Transition.row_of_mem_plan hplan hw with hrow | hrow
  · exact hp (e.symm.trans hrow)
  · exact hp' (e.symm.trans hrow)

end Store
end Friendship
