import Friendship.Proofs.Store.Plans
import Friendship.Relation.Standing

/-!
# Plans and standings

A transition plans on two rows, and what it makes of a standing is said without rows. Here both
are the same: `plan_snapshot` says which writes are planned from a standing, `after_writes` that
they leave the rows of the next one, and `find?_ends_writes` which accounts they relate.
-/
namespace Friendship

namespace DirectedPair

theorem reversed_ne {p : DirectedPair} (h : p.first ≠ p.second) : p.reversed ≠ p := by
  intro e
  exact h (congrArg DirectedPair.second e)

theorem ne_reversed {p : DirectedPair} (h : p.first ≠ p.second) : p ≠ p.reversed :=
  (reversed_ne h).symm

theorem reversed_eq_iff {p q : DirectedPair} : p.reversed = q ↔ p = q.reversed := by
  constructor <;> rintro rfl <;> rfl

end DirectedPair

/-- Coming back to two accounts finds none of a kind that was not found before. -/
theorem find?_there_and_back (kind : AccountId → Bool) (a b : AccountId) :
    [a, b, b, a].find? kind = [a, b].find? kind := by
  cases ha : kind a <;> cases hb : kind b <;> simp [ha, hb]

namespace Transition

variable {t : Transition} {policy : Policy} {seen : Snapshot} {plan : List Write}

theorem first_ne_second_pair : t.pair.first ≠ t.pair.second ↔ t.actor ≠ t.other := by
  obtain ⟨action, actor, other⟩ := t
  cases action <;> simp [pair, eq_comm]

theorem plan_self (h : t.actor = t.other) (policy : Policy) (seen : Snapshot) :
    t.plan policy seen = .error (.invalidArgument (.selfRelation t.action t.actor)) := by
  simp [Transition.plan, h]

theorem row_of_mem_clearing {p : DirectedPair} {w : Write} (h : w ∈ clearing p seen) :
    w.row = p ∨ w.row = p.reversed := by
  simp only [clearing, List.mem_append] at h
  rcases h with h | h <;> split at h <;> simp_all [Write.row]

theorem row_of_mem_symmetric {p : DirectedPair} {status : Status} {w : Write}
    (h : w ∈ symmetric p status) : w.row = p ∨ w.row = p.reversed := by
  simp only [symmetric, List.mem_cons, List.not_mem_nil, or_false] at h
  rcases h with rfl | rfl
  · exact Or.inl rfl
  · exact Or.inr rfl

/-- A transition writes no rows but those of its pair, whatever the rows are. -/
theorem row_of_mem_plan (h : t.plan policy seen = .ok plan) {w : Write} (hw : w ∈ plan) :
    w.row = t.pair ∨ w.row = t.pair.reversed := by
  by_cases hself : t.actor = t.other
  · simp [plan_self hself] at h
  simp only [Transition.plan, hself, if_false] at h
  unfold planDistinct at h
  generalize t.pair = p at *
  split at h
  · cases h
    split at hw
    · rw [List.mem_singleton.1 hw]
      exact Or.inl rfl
    · exact absurd hw List.not_mem_nil
  · split at h
    · cases h
      exact row_of_mem_symmetric hw
    · split at h <;> cases h
      exact absurd hw List.not_mem_nil
  · split at h <;> cases h
    rw [List.mem_singleton.1 hw]
    exact Or.inl rfl
  · split at h <;> cases h
    exact row_of_mem_clearing hw
  · cases h
    exact row_of_mem_symmetric hw
  · split at h
    · cases h
    · split at h <;> cases h
      exact row_of_mem_symmetric hw

theorem isPut_of_mem_clearing {p : DirectedPair} {w : Write} (h : w ∈ clearing p seen) :
    w.isPut = false := by
  simp only [clearing, List.mem_append] at h
  rcases h with h | h <;> split at h <;> simp_all [Write.isPut]

/-- The rows that a transition puts are a request to the second account, or both rows with the same
status; it deletes none along with them. -/
theorem puts_of_plan (h : t.plan policy seen = .ok plan) (hput : plan.any Write.isPut = true) :
    plan = [.put t.pair .pending] ∨ ∃ status, plan = symmetric t.pair status := by
  by_cases hself : t.actor = t.other
  · simp [plan_self hself] at h
  simp only [Transition.plan, hself, if_false] at h
  unfold planDistinct at h
  generalize t.pair = p at *
  split at h
  · cases h
    split at hput
    · rename_i hempty
      simp [hempty]
    · cases hput
  · split at h
    · cases h
      exact Or.inr ⟨_, rfl⟩
    · split at h <;> cases h
      cases hput
  · split at h <;> cases h
    cases hput
  · split at h <;> cases h
    obtain ⟨w, hw, hwput⟩ := List.any_eq_true.1 hput
    rw [isPut_of_mem_clearing hw] at hwput
    cases hwput
  · cases h
    exact Or.inr ⟨_, rfl⟩
  · split at h
    · cases h
    · split at h <;> cases h
      exact Or.inr ⟨_, rfl⟩

/-- The first account of a kind that a plan with puts relates is the first such of the pair. -/
theorem find?_ends_of_plan (h : t.plan policy seen = .ok plan)
    (hput : plan.any Write.isPut = true) (kind : AccountId → Bool) :
    (plan.flatMap Write.ends).find? kind = [t.pair.first, t.pair.second].find? kind := by
  rcases puts_of_plan h hput with rfl | ⟨status, rfl⟩
  · rfl
  · exact find?_there_and_back kind _ _

end Transition

namespace Standing

variable {t : Transition} {policy : Policy} {x y : Standing}

/-- The writes that put the rows of a standing. -/
def puts (p : DirectedPair) (x : Standing) : List Write :=
  (x.snapshot.forward.map (Write.put p)).toList ++
    (x.snapshot.backward.map (Write.put p.reversed)).toList

/-- The writes by which a transition takes one standing to another. -/
def writes (t : Transition) (x y : Standing) : List Write :=
  if renews t.action x then y.puts t.pair
  else if y = x then [] else Transition.clearing t.pair x.snapshot

/-- From the rows of a standing a transition plans its way to the next standing, or fails as the
standing says. -/
theorem plan_snapshot (h : t.actor ≠ t.other) (policy : Policy) (x : Standing) :
    t.plan policy x.snapshot = (x.next policy t).map (x.writes t) := by
  have hplan : t.plan policy x.snapshot = t.planDistinct policy x.snapshot := if_neg h
  rw [hplan]
  clear hplan h
  obtain ⟨action, actor, other⟩ := t
  obtain ⟨strictAccept, strictUnblock, _⟩ := policy
  cases action with
  | addFriend => cases x <;> rfl
  | acceptFriend => cases x <;> cases strictAccept <;> rfl
  | rejectFriend => cases x <;> rfl
  | removeFriend => cases x <;> rfl
  | blockFriend => cases x <;> rfl
  | unblockFriend => cases x <;> cases strictUnblock <;> rfl

/-- Putting the rows of a standing leaves the others as they were. -/
theorem after_puts {p : DirectedPair} (hp : p.first ≠ p.second) (seen : Snapshot) (x : Standing) :
    seen.after p (x.puts p) =
      ⟨x.snapshot.forward.or seen.forward, x.snapshot.backward.or seen.backward⟩ := by
  have hne := DirectedPair.ne_reversed hp
  have hne' := DirectedPair.reversed_ne hp
  cases x <;> simp [Snapshot.after, puts, snapshot, Write.last?_cons, Write.row, Write.outcome, hne,
    hne']

/-- Clearing the rows of a pair leaves none. -/
theorem after_clearing {p : DirectedPair} (hp : p.first ≠ p.second) (seen : Snapshot) :
    seen.after p (Transition.clearing p seen) = strangers.snapshot := by
  have hne := DirectedPair.ne_reversed hp
  have hne' := DirectedPair.reversed_ne hp
  obtain ⟨forward, backward⟩ := seen
  cases forward <;> cases backward <;> simp [Snapshot.after, Transition.clearing, snapshot,
    Write.last?_cons, Write.row, Write.outcome, hne, hne']

/-- Rows are written anew for a first request, and else for both accounts at once. -/
theorem next_of_renews (hnew : renews t.action x = true) (hxy : x.next policy t = .ok y) :
    (x = strangers ∧ y = asking) ∨ y = friends ∨ y = blocked := by
  obtain ⟨action, actor, other⟩ := t
  simp only [next] at hxy
  cases action with
  | addFriend => simp_all [renews]
  | acceptFriend => simp_all [renews]
  | rejectFriend => simp [renews] at hnew
  | removeFriend => simp [renews] at hnew
  | blockFriend => simp_all
  | unblockFriend =>
    simp only at hxy
    split at hxy
    · cases hxy
    · split at hxy <;> cases hxy
      exact Or.inr (Or.inl rfl)

/-- Without new rows either nothing changes or the rows are cleared. -/
theorem next_of_not_renews (hold : renews t.action x = false) (hxy : x.next policy t = .ok y) :
    y = x ∨ y = strangers := by
  obtain ⟨action, actor, other⟩ := t
  simp only [next] at hxy
  cases action with
  | addFriend => simp_all [renews]
  | acceptFriend =>
    simp_all only [renews, decide_eq_false_iff_not, if_false]
    split at hxy <;> cases hxy
    exact Or.inl rfl
  | rejectFriend =>
    simp only at hxy
    split at hxy <;> cases hxy
    exact Or.inr rfl
  | removeFriend =>
    simp only at hxy
    split at hxy <;> cases hxy
    exact Or.inr rfl
  | blockFriend => simp [renews] at hold
  | unblockFriend => simp_all [renews]

/-- The planned writes leave the rows of the next standing. -/
theorem after_writes (h : t.actor ≠ t.other) (hxy : x.next policy t = .ok y) :
    x.snapshot.after t.pair (x.writes t y) = y.snapshot := by
  have hp : t.pair.first ≠ t.pair.second := Transition.first_ne_second_pair.2 h
  unfold writes
  split
  · rename_i hnew
    rw [after_puts hp]
    rcases next_of_renews hnew hxy with ⟨rfl, rfl⟩ | rfl | rfl <;> rfl
  · rename_i hold
    split
    · rename_i hyx
      rw [hyx]
      rfl
    · rename_i hyx
      have hy : y = strangers :=
        (next_of_not_renews (Bool.not_eq_true _ ▸ hold) hxy).resolve_left hyx
      rw [after_clearing hp, hy]

/-- The first account of a kind that the planned writes relate is the first such of the pair, if
rows are written anew; else they relate none. -/
theorem find?_ends_writes (kind : AccountId → Bool) (hxy : x.next policy t = .ok y) :
    ((x.writes t y).flatMap Write.ends).find? kind =
      if renews t.action x then [t.pair.first, t.pair.second].find? kind else none := by
  unfold writes
  split
  · rename_i hnew
    have hputs : (y.puts t.pair).flatMap Write.ends = [t.pair.first, t.pair.second] ∨
        (y.puts t.pair).flatMap Write.ends =
          [t.pair.first, t.pair.second, t.pair.second, t.pair.first] := by
      rcases next_of_renews hnew hxy with ⟨rfl, rfl⟩ | rfl | rfl
      · exact Or.inl rfl
      · exact Or.inr rfl
      · exact Or.inr rfl
    rcases hputs with e | e
    · rw [e]
    · rw [e, find?_there_and_back]
  · split
    · rfl
    · simp only [Transition.clearing]
      split <;> split <;> rfl

end Standing
end Friendship
